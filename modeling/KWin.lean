import KWin.Geometry
import KWin.Drm.Property
import KWin.Drm.Object
import KWin.Drm.CommitThread
import KWin.Drm.CommitThread.Mailbox
import KWin.Drm.CommitThread.Teardown
import KWin.Drm.CommitThread.Progress
import KWin.Drm.EglGbmLayer
import KWin.Drm.EglGbmLayer.Runs
import KWin.Wayland.Swapchain
import KWin.Wayland.Layer
import KWin.Wayland.BufferAge
import KWin.Core.GbmGraphicsBufferAllocator
import KWin.GLPlatform.Text
import KWin.GLPlatform.ChipClass
import KWin.GLPlatform.Detect
import KWin.GLPlatform.Cascade
import KWin.Scripting.SceneEffectItem
import KWin.WaylandServer.Drag
import KWin.WaylandServer.ScreenEdge
