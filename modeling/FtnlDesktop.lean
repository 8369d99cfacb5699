import FtnlDesktop.Bluetooth.Codec
import FtnlDesktop.Bluetooth.EndToEnd
import FtnlDesktop.Interface.Window
import FtnlDesktop.Receive.Contract
import FtnlDesktop.Receive.Correlation
import FtnlDesktop.Receive.Downloads
import FtnlDesktop.Receive.Pace
import FtnlDesktop.Receive.PickerView
import FtnlDesktop.Receive.WorkerLoss
import FtnlDesktop.Snapshot.Pinned
import FtnlDesktop.Snapshot.Resave
import FtnlDesktop.Snapshot.Sizes
import FtnlDesktop.Workspace.Deduplication
import FtnlDesktop.Workspace.Recency
import FtnlDesktop.Workspace.Search
