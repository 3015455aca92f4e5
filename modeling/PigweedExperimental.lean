import PigweedExperimental.AsyncBench.BivariantPrograms
import PigweedExperimental.AsyncBench.Echoes
import PigweedExperimental.Display.Conservation
import PigweedExperimental.Display.Handles
import PigweedExperimental.Display.HostDisplay
import PigweedExperimental.Display.ResizeFaults
import PigweedExperimental.Display.RowWrites
import PigweedExperimental.Display.Strides
import PigweedExperimental.Display.WriteCallback
import PigweedExperimental.DisplayDriver.FullFrames
import PigweedExperimental.DisplayDriver.RowWindow
import PigweedExperimental.Draw.Blocks
import PigweedExperimental.Draw.CircleHull
import PigweedExperimental.Draw.CircleRing
import PigweedExperimental.Draw.DrawString
import PigweedExperimental.Draw.GhostPixels
import PigweedExperimental.Draw.LeftEdge
import PigweedExperimental.Draw.LinePath
import PigweedExperimental.Draw.PingPong
import PigweedExperimental.Draw.Scrolling
import PigweedExperimental.Draw.SpritePixels
import PigweedExperimental.Draw.SpriteSheet
import PigweedExperimental.Draw.TextTerminal
import PigweedExperimental.Draw.VisibleText
import PigweedExperimental.Framebuffer.Blit
import PigweedExperimental.FramebufferPool.ConcurrentGet
import PigweedExperimental.MipiDsi.BufferOwnership
import PigweedExperimental.MipiDsi.ChunkedWrites
import PigweedExperimental.MipiDsi.FailedInit
import PigweedExperimental.MipiDsi.LayerFlag
import PigweedExperimental.MipiDsi.ThreeBytePixels
import PigweedExperimental.MipiDsi.WriteCallbacks
import PigweedExperimental.PixelPusher.DoubledFrames
import PigweedExperimental.PixelPusher.DoubledRows
import PigweedExperimental.PixelPusher.Modes
import PigweedExperimental.PixelPusher.PanelFrames
import PigweedExperimental.PixelPusher.PushedDisplay
import PigweedExperimental.Png2cc.Fonts
import PigweedExperimental.Png2cc.Sprites
import PigweedExperimental.Spi.FramebufferSends
import PigweedExperimental.Terminal.DecoderBuffers
import PigweedExperimental.Terminal.LogMessages
import PigweedExperimental.Terminal.LogScreen
import PigweedExperimental.Terminal.LogView
import PigweedExperimental.Terminal.MainTask
import PigweedExperimental.Tls.ClientRuns
import PigweedExperimental.Tls.IncomingBytes
import PigweedExperimental.Tls.LoadAgreement
import PigweedExperimental.Tls.OutgoingBytes
import PigweedExperimental.Tls.TrustStore
import PigweedExperimental.UnitTestRunner.Verdict
