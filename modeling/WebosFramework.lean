import WebosFramework.Booster.Framing
import WebosFramework.Booster.Replies
import WebosFramework.Booster.Answers
import WebosFramework.Booster.Pool
import WebosFramework.Booster.SingleInstance
import WebosFramework.Booster.Closing
import WebosFramework.Booster.Deadlines
import WebosFramework.Booster.Timers
import WebosFramework.Booster.Subscribers
import WebosFramework.Booster.Listed
import WebosFramework.Invoker.Main
import WebosFramework.Runner.LaunchParams
import WebosFramework.Runner.SmackLabel
import WebosFramework.Runner.AppLifeCycleManager
import WebosFramework.Runner.Direct
import WebosFramework.Items.UniformWriter
import WebosFramework.Items.UneditableTiles
import WebosFramework.Items.RibbonKeys
import WebosFramework.Items.PostponedKeys
import WebosFramework.Items.RibbonScrolling
import WebosFramework.Items.WiperStack
import WebosFramework.Items.Beziergon
import WebosFramework.Items.Materials
import WebosFramework.Items.NarrowIndices
import WebosFramework.Items.BezierShader
import WebosFramework.Items.VideoCapture
import WebosFramework.Items.VideoFrames
import WebosFramework.Items.TextureProviders
import WebosFramework.Items.SamplerShader
import WebosFramework.Items.TexturePlacement
import WebosFramework.Items.BezierSampler
import WebosFramework.Items.Painting
import WebosFramework.Items.MaterialPointers
import WebosFramework.Items.WindowReferences
import WebosFramework.Items.PunchThrough
import WebosFramework.Common.TabletEvents
import WebosFramework.Common.TabletMouse
import WebosFramework.Common.WindowProperties
import WebosFramework.Common.WindowSettings
import WebosFramework.Common.WindowState
import WebosFramework.Common.SurfaceSignals
import WebosFramework.Common.EosRegion
import WebosFramework.SurfaceGroup.SurfaceGroupClient
import WebosFramework.SurfaceGroup.SurfaceGroupOwner
import WebosFramework.VirtualKeyboardOverlay.EosVirtualKeyboardOverlay
import WebosFramework.Controls.Settled
import WebosFramework.Controls.Popping
import WebosFramework.Controls.Removing
import WebosFramework.Controls.Replace
import WebosFramework.Controls.ExclusiveGroup
import WebosFramework.Controls.Slider
import WebosFramework.Controls.GroupBox
