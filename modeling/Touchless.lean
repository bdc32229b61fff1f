import Touchless.Configuration.ConfigAccess
import Touchless.Configuration.ConfigEquality
import Touchless.GestureInteraction.BasicModeAssertions
import Touchless.GestureInteraction.BasicModeCharms
import Touchless.GestureInteraction.BasicModePalm
import Touchless.GestureInteraction.CollectiveZone
import Touchless.GestureInteraction.GestureOnlyModeBuckets
import Touchless.GestureInteraction.GestureOnlyModeTracker
import Touchless.GestureInteraction.InteractionClicks
import Touchless.GestureInteraction.InteractionPlacement
import Touchless.GestureInteraction.RelevantPointables
import Touchless.OSInteraction.LPGestureEvents
import Touchless.OSInteraction.LPGestureHistory
import Touchless.OSInteraction.LPGestureSwipe
import Touchless.OSInteraction.LPGestureWheel
import Touchless.OSInteraction.TouchManagerCalls
import Touchless.OSInteraction.TouchManagerWin7Driver
import Touchless.OSInteraction.TouchManagerWin7Undocumented
import Touchless.OSInteraction.TouchManagerWin8
import Touchless.OSInteraction.TouchPeripheralCharms
import Touchless.Overlay.LPOverlayRender
import Touchless.Overlay.OverlayDriverPixels
import Touchless.TouchlessUI.TouchlessRestart
import Touchless.Utility.CategoricalFilterRefinement
import Touchless.Utility.Heartbeat
import Touchless.Utility.LPVirtualScreenRuns
import Touchless.Utility.PositionalDeltaTrackerRuns
import Touchless.Utility.StateMachineVisits
import Touchless.Utility.ValueGrammar
import Touchless.Utility.ValueWidePrefix
