import Sol.TilingLaws
import Sol.RowMemory
import Sol.WorkspaceRun
import Sol.Monitor
import Sol.Monitors
import Sol.Landing
import Sol.WorkspaceRow
import Sol.Activation
import Sol.Takeovers
import Sol.TakeoverFocus
import Sol.Mapped
import Sol.EventStream
import Sol.WorkspaceMachine
import Sol.EventReplay
import Sol.Requests
import Sol.Steady
import Sol.SpaceChanges
import Sol.Transfers
import Sol.Desk
import Sol.Modes
import Sol.TakeoverSizes
import Sol.RoundTrip
import Sol.FloatsAgain
import Sol.Layout
import Sol.InteractiveMove
import Sol.LayoutOps
import Sol.LayoutUpkeep
import Sol.WindowEvents
import Sol.WindowReplay
import Sol.ClientStreams
import Sol.StreamReplay
import Sol.ChangeLog
import Sol.Configures
import Sol.ModeRequests
import Sol.Gestures
import Sol.Intervals
import Sol.Region
import Sol.RegionRects
import Sol.Keyboard
import Sol.SuppressedKeys
import Sol.Assoc
import Sol.OutputManagement
import Sol.OutputHeads
import Sol.OutputViews
import Sol.ForeignToplevel
import Sol.ForeignViews
import Sol.ForeignRuns
import Sol.ForeignClients
import Sol.LockedKeys
import Sol.EventLoop
import Sol.Redraw
import Sol.RedrawSteps
import Sol.SessionLock
import Sol.OutputRuns
import Sol.LockedScreen
import Sol.EstimatedVblank
import Sol.QueuedRedraws
import Sol.Screencopy
import Sol.ScreencopyQueues
import Sol.ScreencopyBooks
import Sol.ScreencopyFrames
import Sol.DynamicCasts
import Sol.Chars
import Sol.Floats
import Sol.SolConf
import Sol.SolConfBounds
import Sol.SolConfComments
import Sol.Greedy
import Sol.OutputPlacement
import Sol.OutputOverlaps
import Sol.OutputOrder
import Sol.SlotRects
import Sol.PixelGrid
import Sol.Hits
import Sol.NewWindowSize
import Sol.SlideRuns
import Sol.Lineage
import Sol.Dialogs
import Sol.FloatingRun
import Sol.FloatingPositions
import Sol.VisualRectangle
import Sol.LayoutParts
import Sol.LayoutSpecs
import Sol.UpkeepSpecs
import Sol.FrameSpecs
import Sol.OutputSpecs
import Sol.AdjustableClock
import Sol.FrameClock
import Sol.Motion
import Sol.ShellWords
import Sol.WindowMru
import Sol.MruNavigation
import Sol.MruUi
import Sol.MruView
import Sol.MruMotion
import Sol.MruRun
import Sol.FocusTimestamps
import Sol.MotionLaws
import Sol.CastPacing
import Sol.SizeOnce
import Sol.Bezier
import Sol.RegionDamage
import Sol.RegionOverflow
import Sol.ScrollTracker
import Sol.Transactions
import Sol.LastWrites
import Sol.SolConfDuplicates
import Sol.Presets
import Sol.WorkspacePresets
import Sol.MonitorInvariants
import Sol.LayoutInvariants
import Sol.OperationInvariants
import Sol.UpkeepInvariants
import Sol.LayoutRun
import Sol.LayoutPresets
import Sol.ArrivalSpecs
import Sol.TransferSpecs
import Sol.DragSpecs
import Sol.Ledger
import Sol.LayoutSafety
import Sol.Batches
import Sol.ExtWorkspace
import Sol.ExtWorkspaceViews
import Sol.ExtWorkspaceTold
import Sol.ExtWorkspaceRefresh
import Sol.ExtWorkspaceManagers
import Sol.ExtWorkspaceRun
import Sol.Toplevels
import Sol.ToplevelSpecs
import Sol.ToplevelLedger
import Sol.ToplevelTold
