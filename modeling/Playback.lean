import Playback.Json.Printer
import Playback.Main
import Playback.Proofs.Capture.AcceptLines
import Playback.Proofs.Capture.Content
import Playback.Proofs.Lzw.Groups
import Playback.Proofs.Lzw.Restart
import Playback.Proofs.Lzw.Truncation
import Playback.Proofs.Message.EditOrder
import Playback.Proofs.Message.Grouping
import Playback.Proofs.Message.MediaType
import Playback.Proofs.Message.Query
import Playback.Proofs.Message.Signature
import Playback.Proofs.Multipart.Disposition
import Playback.Proofs.Multipart.EmptyLine
import Playback.Proofs.Multipart.WindowEdges
import Playback.Proofs.Player.Independence
import Playback.Proofs.Player.Length
import Playback.Proofs.Player.Untouched
import Playback.Proofs.Rating.Encoded
import Playback.Proofs.Rating.Order
import Playback.Proofs.Rating.Range
import Playback.Proofs.Rating.Symmetry
import Playback.Proofs.Rewrite.Headers
import Playback.Proofs.Selection.Highest
import Playback.Proofs.Selection.History
import Playback.Proofs.Selection.Positions
import Playback.Proofs.Settings.Written
