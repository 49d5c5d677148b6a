import DoomPatch.Definition.Block
import DoomPatch.Definition.View

/-!
# Definitions of sounds and language strings

A modified sound keeps its name in definitions and points to the lump of its current name.  The replaced
messages form one block.
-/

namespace DoomPatch

/-- The definition of a sound. -/
def SoundDefinition.block (id : Int) (snd : Sound) : Block where
  name := View.soundRef id
  clauses :=
    [⟨"LUMP_NAME", Definition.quote ("DS" ++ Text.upper snd.name)⟩, ⟨"PRIORITY", toString snd.priority⟩]
      ++ Definition.clauseIf (snd.singularity != 0) "SINGULAR" (toString snd.singularity)

/-- The definitions of the modified sounds.  The first entry of the table means silence and has none. -/
def SoundDefinition.all (s : Session) : List Block :=
  (s.sounds.entries.filter fun e => e.1 != 0).map fun e => SoundDefinition.block e.1 e.2

/-- The block of the replaced messages. -/
def LanguageDefinition.block (texts : List (String × String)) : Block where
  name := "ENGLISH"
  clauses := texts.map fun e => ⟨e.1, Definition.quote e.2⟩

end DoomPatch
