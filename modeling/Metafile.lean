import Metafile.Config.Options
import Metafile.Proofs.ArrayReading
import Metafile.Proofs.BitmapImage
import Metafile.Proofs.ClipIndependence
import Metafile.Proofs.CompactPoints
import Metafile.Proofs.Effects
import Metafile.Proofs.EmbeddedBitmap
import Metafile.Proofs.FailedStep
import Metafile.Proofs.FontNames
import Metafile.Proofs.HandleRenaming
import Metafile.Proofs.Insertion
import Metafile.Proofs.InvertingTransfer
import Metafile.Proofs.SameDrawings
import Metafile.Proofs.SaveHistory
import Metafile.Proofs.SaveRestore
import Metafile.Proofs.SelectionHistory
import Metafile.Proofs.TableCalls
import Metafile.Proofs.TextAdvance
import Metafile.Proofs.TextTiling
import Metafile.Proofs.TransferInputs
import Metafile.Proofs.Truncation
import Metafile.Proofs.WordCursor
import Metafile.Render
