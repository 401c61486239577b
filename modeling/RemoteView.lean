import RemoteView.Screen.Operation
import RemoteView.Screen.Surroundings
import RemoteView.Settings.File
import RemoteView.Window.Tracker
import RemoteView.Proofs.Except
import RemoteView.Proofs.Frame.HandOver
import RemoteView.Proofs.Window.Deferral
import RemoteView.Proofs.Screen.Effects.Frames
import RemoteView.Proofs.Screen.Effects.Input
import RemoteView.Proofs.Checked
import RemoteView.Proofs.Fitting.Bounds
import RemoteView.Proofs.FrameRate
import RemoteView.Proofs.Mapping.Bounds
import RemoteView.Proofs.Panel.Bounds
import RemoteView.Proofs.Panel.Presses
import RemoteView.Proofs.Window.Resizing
import RemoteView.Proofs.Screen.Effects.Operation
import RemoteView.Proofs.Screen.Effects.Requests
import RemoteView.Proofs.Screen.Invariant
import RemoteView.Proofs.Screen.FrameSizes
import RemoteView.Proofs.Screen.NoFault.Frames
import RemoteView.Proofs.Screen.NoFault.Run
import RemoteView.Proofs.Screen.Picture.Current
import RemoteView.Proofs.Screen.Picture.Run
import RemoteView.Proofs.Screen.Resizes
import RemoteView.Proofs.Screen.Uploads
import RemoteView.Proofs.Mapping.Inside
import RemoteView.Proofs.Screen.Forwarded
import RemoteView.Proofs.Screen.Calls
import RemoteView.Proofs.Screen.Startup
import RemoteView.Proofs.Screen.Fates
import RemoteView.Proofs.Screen.Aside
import RemoteView.Proofs.Screen.Pause.Run
import RemoteView.Proofs.Frame.Disconnection
import RemoteView.Proofs.Window.Polls
import RemoteView.Proofs.Overflow
import RemoteView.Proofs.Screen.Effects.Layout
import RemoteView.Proofs.Screen.LaidOut
import RemoteView.Proofs.Since
import RemoteView.Proofs.Json.Words
import RemoteView.Proofs.Json.Written
import RemoteView.Proofs.Json.Record
import RemoteView.Proofs.Settings
import RemoteView.Proofs.Outbound
import RemoteView.Proofs.Panel.Message
import RemoteView.Proofs.Fitting.Centred
import RemoteView.Proofs.Fitting.Largest
import RemoteView.Proofs.Orientation.Group
import RemoteView.Proofs.Screen.Snug
import RemoteView.Proofs.Geometry
import RemoteView.Proofs.Mapping.Pixels
import RemoteView.Proofs.Panel.Grid
import RemoteView.Proofs.Panel.Record
import RemoteView.Proofs.Panel.Corrections
import RemoteView.Proofs.Panel.Hover
import RemoteView.Proofs.FrameRate.Reports
import RemoteView.Proofs.Fitting.Exact
