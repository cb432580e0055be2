import Fabula.Boxes
import Fabula.Console
import Fabula.Main
import Fabula.Proofs.Conservation
import Fabula.Proofs.Rendition
import Fabula.Proofs.Door
import Fabula.Proofs.Session
import Fabula.Proofs.Restart
import Fabula.Proofs.Agenda
import Fabula.Proofs.Template
import Fabula.Proofs.Speech
import Fabula.Proofs.Fluency
import Fabula.Proofs.Farewell
import Fabula.Proofs.Handling
import Fabula.Proofs.Ledger
import Fabula.Proofs.Forecast
import Fabula.Proofs.Faults
import Fabula.Proofs.WayOut
import Fabula.Proofs.Shape
import Fabula.Proofs.Movement
import Fabula.Proofs.Heading
import Fabula.Proofs.Opening
import Fabula.Proofs.Locality
import Fabula.Proofs.Arrangement
import Fabula.Proofs.Notation
import Fabula.Proofs.Tracing
import Fabula.Proofs.Boxes
import Fabula.Proofs.Resolution
import Fabula.Proofs.Carrying
import Fabula.Proofs.Display
import Fabula.Proofs.Frame
import Fabula.Proofs.WellFormed
import Fabula.Proofs.Caseless
import Fabula.Proofs.Doorway
import Fabula.Proofs.Return
import Fabula.Proofs.Faithful
import Fabula.Proofs.Undoing
import Fabula.Proofs.Clearing
import Fabula.Proofs.Quitting
import Fabula.Proofs.Choice
import Fabula.Proofs.Spacing
import Fabula.Proofs.Messages
import Fabula.Proofs.Reading
