import FtnlDesktop.Receive.Transfer

/-!
# Default file names

`safe_default_destination` checks the name it was sent character by character, and then returns
what the path parser makes of it.  The two do not look at the same string: the parser drops
repeated and trailing separators and `.` components, and `/` is not among the characters that the
checks refuse.  So a device name or a trailing dot can hide in front of a trailing separator.

* **`safeDefaultDestination_eq_ok`** — the accepted names, and the path each of them yields.
* **`portable_name_returned_iff`** — the function accepts exactly the portable names and returns
  them unchanged, except for the names that pass the checks and have a tail the parser drops.
* **`device_name_accepted`** — `CON/` is such a name, and what comes back is `CON`.
-/

namespace FtnlDesktop.Receive

open Method

/-- The part of a name before its first dot. -/
def windowsStem (name : String) : String := String.ofList (name.toList.takeWhile fun c => c ≠ '.')

/-- What the checks of `safe_default_destination` require of the name as it was sent. -/
structure PassesRawChecks (name : String) : Prop where
  nonempty : name ≠ ""
  bytes : name.utf8ByteSize ≤ MAX_FILE_NAME_BYTES
  control : ∀ c ∈ name.toList, isControl c = false
  punctuation : ∀ c ∈ name.toList, c ∉ ['\\', ':', '*', '?', '"', '<', '>', '|']
  trailing : ∀ c ∈ name.toList.getLast?, c ≠ ' ' ∧ c ≠ '.'
  device : ∀ reserved ∈ reservedWindowsNames, eqIgnoreAsciiCase (windowsStem name) reserved = false

/-- A name that denotes one file in the current directory, on Unix and on Windows. -/
structure IsPortableName (name : String) : Prop extends PassesRawChecks name where
  separator : '/' ∉ name.toList

/-- The name goes on after its first component, with nothing but separators and `.` components. -/
def HasDroppedTail (name : String) : Prop :=
  ∃ base tail : List Char, name.toList = base ++ '/' :: tail ∧ '/' ∉ base
    ∧ base ∉ [[], ['.'], ['.', '.']] ∧ ∀ part ∈ tail.splitOn '/', part = [] ∨ part = ['.']

/-! ## Components -/

/-- Without a separator the whole name is one component. -/
lemma components_of_not_mem {name : String} (hsep : '/' ∉ name.toList)
    (hname : name.toList ∉ [[], ['.'], ['.', '.']]) : components name = [.Normal name] := by
  simp only [List.mem_cons, List.not_mem_nil, or_false, not_or] at hname
  obtain ⟨hne, hdot, hdotdot⟩ := hname
  have hhead : name.toList.head? ≠ some '/' := by
    intro h
    exact hsep (List.mem_of_mem_head? h)
  simp only [components, List.splitOn_eq_singleton hsep, hhead, if_false, List.head?_cons,
    Option.some.injEq, hdot]
  simp [hne, hdot, hdotdot]

/-- With a separator, the part before it is the only component exactly when it is a proper one and
everything after it is dropped. -/
lemma components_append_eq_iff {name component : String} {base tail : List Char}
    (hname : name.toList = base ++ '/' :: tail) (hsep : '/' ∉ base) :
    components name = [.Normal component] ↔
      component = String.ofList base ∧ base ∉ [[], ['.'], ['.', '.']]
        ∧ ∀ part ∈ tail.splitOn '/', part = [] ∨ part = ['.'] := by
  have hparts : name.toList.splitOn '/' = base :: tail.splitOn '/' := by
    rw [hname, List.splitOn_append_cons_self_of_not_mem hsep]
  simp only [List.mem_cons, List.not_mem_nil, or_false, not_or]
  rcases eq_or_ne base [] with rfl | hne
  · simp [components, hname]
  have hhead : name.toList.head? ≠ some '/' := by
    rw [hname, List.head?_append_of_ne_nil _ hne]
    exact fun h => hsep (List.mem_of_mem_head? h)
  rcases eq_or_ne base ['.'] with rfl | hdot
  · simp [components, hparts, hhead]
  have hdropped : (tail.splitOn '/').filter (fun part => part ≠ [] ∧ part ≠ ['.']) = [] ↔
      ∀ part ∈ tail.splitOn '/', part = [] ∨ part = ['.'] := by
    simp only [List.filter_eq_nil_iff, decide_eq_true_eq, not_and_or, not_not]
  rcases eq_or_ne base ['.', '.'] with rfl | hdotdot
  · simp [components, hparts, hhead]
  · simp only [components, hparts, hhead, if_false, List.head?_cons, Option.some.injEq, hdot,
      List.filter_cons, hne, hdotdot, ne_eq, not_false_eq_true, and_self, decide_true, if_true,
      List.map_cons, List.cons.injEq, List.map_eq_nil_iff, Component.Normal.injEq, true_and]
    rw [← hdropped, eq_comm]

/-- A single component has no separator in it and is none of the dots. -/
lemma component_of_components {name component : String}
    (h : components name = [.Normal component]) :
    '/' ∉ component.toList ∧ component.toList ∉ [[], ['.'], ['.', '.']] := by
  by_cases hsep : '/' ∈ name.toList
  · obtain ⟨base, tail, hname, hbase⟩ := List.eq_append_cons_of_mem hsep
    obtain ⟨rfl, hdots, -⟩ := (components_append_eq_iff hname hbase).mp h
    rw [String.toList_ofList]
    exact ⟨hbase, hdots⟩
  · by_cases hdots : name.toList ∈ [[], ['.'], ['.', '.']]
    · have hparts := List.splitOn_eq_singleton hsep
      simp only [List.mem_cons, List.not_mem_nil, or_false] at hdots
      rcases hdots with hdots | hdots | hdots
      all_goals
        rw [hdots] at hparts
        simp [components, hdots, hparts] at h
    · obtain rfl : name = component := by
        simpa using (components_of_not_mem hsep hdots).symm.trans h
      exact ⟨hsep, hdots⟩

/-! ## The function -/

lemma rawChecks_iff {name : String} :
    ¬ (name.isEmpty = true ∨ name.utf8ByteSize > MAX_FILE_NAME_BYTES
      ∨ name.toList.any isControl = true
      ∨ (name.toList.any fun c =>
          c = '\\' ∨ c = ':' ∨ c = '*' ∨ c = '?' ∨ c = '"' ∨ c = '<' ∨ c = '>' ∨ c = '|') = true
      ∨ (name.toList.getLast? = some ' ' ∨ name.toList.getLast? = some '.')
      ∨ reservedWindowsNames.any (eqIgnoreAsciiCase (windowsStem name)) = true) ↔
    PassesRawChecks name := by
  simp only [not_or, not_exists, not_and, not_lt, List.any_eq_true, decide_eq_true_eq,
    Bool.not_eq_true, gt_iff_lt, String.isEmpty_iff]
  constructor
  · rintro ⟨hne, hbytes, hcontrol, hpunctuation, ⟨hspace, hdot⟩, hdevice⟩
    refine ⟨hne, hbytes, hcontrol, ?_, ?_, hdevice⟩
    · intro c hc
      simpa using hpunctuation c hc
    · intro c hc
      exact ⟨fun h => hspace (h ▸ hc), fun h => hdot (h ▸ hc)⟩
  · intro h
    refine ⟨h.nonempty, h.bytes, h.control, ?_, ⟨?_, ?_⟩, h.device⟩
    · intro c hc
      simpa using h.punctuation c hc
    · exact fun hlast => (h.trailing _ hlast).1 rfl
    · exact fun hlast => (h.trailing _ hlast).2 rfl

/-- **Accepted names.** -/
theorem safeDefaultDestination_eq_ok {name path : String} :
    safeDefaultDestination name = .ok path ↔
      PassesRawChecks name ∧ components name = [.Normal path] ∧ path ≠ "" := by
  rw [safeDefaultDestination, bind_eq_ok]
  simp only [rejectIf_eq_ok, exists_const]
  refine and_congr rawChecks_iff ?_
  split
  · rename_i component heq
    rw [heq]
    simp only [bind_eq_ok, rejectIf_eq_ok, exists_const, pure_eq_ok, String.isEmpty_iff,
      List.cons.injEq, Component.Normal.injEq, and_true]
    constructor
    · rintro ⟨hne, rfl⟩
      exact ⟨rfl, hne⟩
    · rintro ⟨rfl, hne⟩
      exact ⟨hne, rfl⟩
  · rename_i hother
    constructor
    · intro h
      cases h
    · rintro ⟨heq, -⟩
      exact absurd heq (hother path)

lemma IsPortableName.not_dots {name : String} (h : IsPortableName name) :
    name.toList ∉ [[], ['.'], ['.', '.']] := by
  simp only [List.mem_cons, List.not_mem_nil, or_false, not_or]
  refine ⟨?_, ?_, ?_⟩
  · intro hnil
    exact h.nonempty (String.toList_eq_nil_iff.mp hnil)
  · intro hdot
    exact (h.trailing '.' (by rw [hdot]; rfl)).2 rfl
  · intro hdot
    exact (h.trailing '.' (by rw [hdot]; rfl)).2 rfl

lemma safeDefaultDestination_of_isPortableName {name : String} (h : IsPortableName name) :
    safeDefaultDestination name = .ok name :=
  safeDefaultDestination_eq_ok.mpr
    ⟨h.toPassesRawChecks, components_of_not_mem h.separator h.not_dots, h.nonempty⟩

/-- `safe_default_destination` accepts the name exactly if it is portable, and then returns it. -/
def ReturnsPortableName (name : String) : Prop :=
  (∀ path, safeDefaultDestination name = .ok path → path = name ∧ IsPortableName path) ∧
    (IsPortableName name → safeDefaultDestination name = .ok name)

/-- **Exactly the portable names, unchanged**, unless the name passes the checks and goes on after
its first component with a tail that the path parser drops. -/
theorem portable_name_returned_iff (name : String) :
    ReturnsPortableName name ↔ ¬ (PassesRawChecks name ∧ HasDroppedTail name) := by
  constructor
  · rintro ⟨hsound, -⟩ ⟨hraw, base, tail, hname, hsep, hbase, htail⟩
    have hcomponents := (components_append_eq_iff hname hsep).mpr ⟨rfl, hbase, htail⟩
    have hne : String.ofList base ≠ "" := by
      intro h
      refine hbase (List.mem_cons.mpr (Or.inl ?_))
      simpa using h
    obtain ⟨hsame, -⟩ := hsound _ (safeDefaultDestination_eq_ok.mpr ⟨hraw, hcomponents, hne⟩)
    -- the path has no separator, the name has one
    have hlist : base = base ++ '/' :: tail := by
      rw [← hname, ← hsame, String.toList_ofList]
    simp at hlist
  · intro hsafe
    refine ⟨?_, safeDefaultDestination_of_isPortableName⟩
    intro path hpath
    obtain ⟨hraw, hcomponents, -⟩ := safeDefaultDestination_eq_ok.mp hpath
    by_cases hsep : '/' ∈ name.toList
    · obtain ⟨base, tail, hname, hbase⟩ := List.eq_append_cons_of_mem hsep
      obtain ⟨-, hproper, htail⟩ := (components_append_eq_iff hname hbase).mp hcomponents
      exact absurd ⟨hraw, base, tail, hname, hbase, hproper, htail⟩ hsafe
    · have hportable : IsPortableName name := { hraw with separator := hsep }
      have hsame := safeDefaultDestination_of_isPortableName hportable
      obtain rfl : name = path := Except.ok.inj (hsame.symm.trans hpath)
      exact ⟨rfl, hportable⟩

lemma passesRawChecks_con : PassesRawChecks "CON/" where
  nonempty := by decide
  bytes := by decide
  control := by simp [isControl]
  punctuation := by simp
  trailing := by simp
  device := by decide

/-- **A device name gets through.**  `CON/` passes every check, and the path it yields is `CON`. -/
theorem device_name_accepted :
    safeDefaultDestination "CON/" = .ok "CON" ∧ ¬ ReturnsPortableName "CON/" := by
  have hname : "CON/".toList = ['C', 'O', 'N'] ++ '/' :: [] := rfl
  have hcomponents : components "CON/" = [.Normal "CON"] :=
    (components_append_eq_iff hname (by decide)).mpr ⟨rfl, by decide, by simp⟩
  have hok := safeDefaultDestination_eq_ok.mpr ⟨passesRawChecks_con, hcomponents, by decide⟩
  refine ⟨hok, ?_⟩
  intro h
  exact absurd (h.1 _ hok).1 (by decide)

end FtnlDesktop.Receive
