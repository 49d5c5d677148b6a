import DoomPatch.Fault.Dossier
import DoomPatch.Main
import DoomPatch.Proofs.Animation.Playback
import DoomPatch.Proofs.Conversion.Distinct
import DoomPatch.Proofs.Conversion.Firing
import DoomPatch.Proofs.Conversion.Once
import DoomPatch.Proofs.Conversion.Weapons
import DoomPatch.Proofs.Conversion.Whole
import DoomPatch.Proofs.Service.Stored
import DoomPatch.Proofs.Session.Commute
import DoomPatch.Proofs.Session.Footprint
import DoomPatch.Proofs.Session.Integrity
import DoomPatch.Proofs.Session.Refusal
import DoomPatch.Proofs.Session.Version
import DoomPatch.Proofs.Store.Damage
import DoomPatch.Proofs.Store.Failure
import DoomPatch.Setup
import DoomPatch.Proofs.Animation.Shares
import DoomPatch.Proofs.Session.Sprites
import DoomPatch.Proofs.Flag.Expression
import DoomPatch.Proofs.Session.Chronicle
import DoomPatch.Proofs.Session.Flags
import DoomPatch.Proofs.Conversion.Amounts
import DoomPatch.Proofs.Flag.Listing
import DoomPatch.Proofs.Field.Lawful
import DoomPatch.Proofs.Session.Repeat
import DoomPatch.Proofs.Conversion.Desk
import DoomPatch.Proofs.Conversion.Failure
import DoomPatch.Proofs.Flag.Literal
import DoomPatch.Proofs.Conversion.Specials
import DoomPatch.Proofs.Conversion.Language
import DoomPatch.Proofs.Script.Meaning
import DoomPatch.Proofs.Session.Chains
import DoomPatch.Proofs.Conversion.Buffer
