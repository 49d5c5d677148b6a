import DoomPatch.Proofs.Conversion.Lumps

/-!
# Conversions step by step

A conversion is carried out in many steps: lumps are selected and released, texts are printed, names are claimed, and
scratch attacks are noted while a definition is printed and written when it is finished.  Any step could fail and leave
behind what was done before it.  Here the steps are taken one by one; a press, which writes a whole definition at once,
comes to the same.

* `Desk`, `Work` — a press at work, and work that can fail half-way.
* `Desk.define` — a definition: its lump is selected and released, and its scratch attacks follow.
* `Desk.convertThing`, `Desk.convertWeapon`, `Desk.convertAll` — conversions.
* `Buffer.foldl_print` — texts printed one by one to a selected lump.
* `Desk.run_define` — defining is writing a draft.
-/

namespace DoomPatch

/-- A press at work.  Scratch attacks are noted before they are written. -/
structure Desk extends Press where
  /-- The scratch attacks that are noted and not written yet, in order. -/
  pending : List Scratch := []

/-- Work at a desk.  If it fails, the desk is left as it was at that moment. -/
abbrev Work := EStateM ConversionError Desk

namespace Desk

/-! ### Steps -/

/-- Selects a lump. -/
def select (k : LumpKind) : Work Unit := modify fun d => { d with buffer := d.buffer.select k }

/-- Prints to the selected lump. -/
def print (text : String) : Work Unit := modify fun d => { d with buffer := d.buffer.print text }

/-- Selects no lump. -/
def release : Work Unit := modify fun d => { d with buffer := d.buffer.release }

/-- Leaves warnings. -/
def warn (ws : List Warning) : Work Unit := modify fun d => { d with toPress := d.toPress.warn ws }

/-- Claims the name of an attack, or warns that it is taken. -/
def claim (name : String) (id : Int) : Work Bool :=
  modifyGet fun d => ((d.toPress.reserve name id).1, { d with toPress := (d.toPress.reserve name id).2 })

/-- Claims the name of a scratch attack, and notes the attack if the name is free. -/
def note (s : Scratch) : Work Unit := do
  if ← claim s.name s.frame then
    modify fun d => { d with pending := d.pending ++ [s] }

/-- Prints a definition line by line. -/
def printBlock (b : Block) : Work Unit := do
  print b.header
  forM b.clauses fun c => print c.text
  print "\n"

/-- Writes the scratch attacks that are pending. -/
def flush : Work Unit := do
  let pending := (← get).pending
  unless pending.isEmpty do
    select .attacks
    forM pending fun s => printBlock s.block
    release
    modify fun d => { d with pending := [] }

/-- Writes a definition.  Scratch attacks are noted as the frames are shown that strike with them. -/
def define (kind : LumpKind) (block : Block) (scratches : List Scratch) (warnings : List Warning) : Work Unit := do
  select kind
  print block.header
  forM scratches note
  warn warnings
  forM block.clauses fun c => print c.text
  print "\n"
  release
  flush

/-! ### Conversions -/

/-- Writes the cube. -/
def cube (v : View) : Work Unit := do
  let some shot := v.thing? AttackEntry.spawnShot | throw .noSpawnShot
  let some fire := v.thing? AttackEntry.spawnFire | throw .noSpawnFire
  if ← claim shot.ddfName AttackEntry.spawnShot then
    let b := ThingDefinition.storyboard v shot.ddfName (AttackDefinition.cubeStarts shot fire)
    define .attacks (AttackDefinition.block v AttackEntry.cube shot fire.seeSound b) b.scratches []

/-- Writes a thing. -/
def thing (v : View) (id : Int) (t : Thing) : Work Unit := do
  if id = AttackEntry.spawnFire then
    cube v
  else
    let some starts := ThingDefinition.shown? v id t | throw (.noFog id)
    let b := ThingDefinition.storyboard v t.ddfName starts
    define .things (ThingDefinition.block v id t b) b.scratches
      (if b.states.isEmpty then
        [{ kind := .missingStates, entity := "thing", id, message := s!"thing {t.ddfName} has no states" }]
      else [])

/-- Writes a projectile. -/
def projectile (v : View) (id : Int) (t : Thing) : Work Unit := do
  if id = AttackEntry.spawnShot then
    cube v
  else
    let some e := AttackEntry.ofThing? id | throw (.noAttack t.name id)
    if ← claim t.ddfName id then
      let b := ThingDefinition.storyboard v t.ddfName (AttackDefinition.starts t)
      define .attacks (AttackDefinition.block v e t t.deathSound b) b.scratches []

/-- Converts one thing or projectile. -/
def convertThing (v : View) (id : Int) : Work Unit := do
  let some t := v.thing? id | throw (.noThing id)
  if t.isAttack then projectile v id t else thing v id t

/-- Converts one weapon. -/
def convertWeapon (v : View) (id : Int) : Work Unit := do
  let some w := v.session.weapon? id | throw (.noWeapon id)
  let b := WeaponDefinition.storyboard v w
  define .weapons (WeaponDefinition.block v w b) b.scratches []

/-- Writes the modified sounds. -/
def sounds (s : Session) : Work Unit := do
  unless s.sounds.isEmpty do
    select .sounds
    forM (SoundDefinition.all s) printBlock
    release

/-- Writes the replaced messages. -/
def language (s : Session) : Work Unit := do
  unless s.texts.isEmpty do
    select .language
    printBlock (LanguageDefinition.block s.texts.entries)
    release

/-- Writes the triggers of bosses. -/
def triggers (v : View) : Work Unit := do
  if let some text := BossTrigger.script? v then
    select .triggers
    print text
    release

/-- Converts everything that is modified: things, projectiles, the cube, weapons, and what is no entity. -/
def convertAll (v : View) : Work Unit := do
  forM v.session.things.keys fun id => do
    let t := Conversion.record v id
    unless t.isAttack || id == AttackEntry.spawnFire do
      thing v id t
  forM v.session.things.keys fun id => do
    let t := Conversion.record v id
    unless !t.isAttack || id == AttackEntry.spawnShot do
      projectile v id t
  if v.session.things.contains AttackEntry.spawnShot || v.session.things.contains AttackEntry.spawnFire then
    cube v
  forM v.session.weapons.keys (convertWeapon v)
  sounds v.session
  language v.session
  triggers v

end Desk

/-! ### Printing -/

namespace Buffer

variable {b : Buffer} {k : LumpKind}

theorem current_print (hcurrent : b.current = some k) (text : String) : (b.print text).current = some k := by
  unfold print
  rw [hcurrent]

/-- Printing goes behind what the selected lump holds. -/
theorem print_eq (hcurrent : b.current = some k) (text : String) :
    b.print text = { b with opened := b.opened.map fun e => if e.1 = k then (e.1, e.2 ++ text) else e } := by
  unfold print
  rw [hcurrent]

theorem print_empty (hcurrent : b.current = some k) : b.print "" = b := by
  rw [print_eq hcurrent]
  simp

theorem print_print (hcurrent : b.current = some k) (text text' : String) :
    (b.print text).print text' = b.print (text ++ text') := by
  rw [print_eq (current_print hcurrent text), print_eq hcurrent, print_eq hcurrent]
  simp only [List.map_map]
  congr 1
  refine List.map_congr_left fun e _ => ?_
  by_cases hkind : e.1 = k <;> simp [hkind, String.append_assoc]

/-- Texts that are printed one by one to a selected lump are there as one text. -/
theorem foldl_print (hcurrent : b.current = some k) (texts : List String) :
    texts.foldl print b = b.print (String.join texts) := by
  induction texts generalizing b with
  | nil => exact (print_empty hcurrent).symm
  | cons text texts ih => rw [List.foldl_cons, ih (current_print hcurrent text), print_print hcurrent, String.join_cons]

end Buffer

namespace Press

/-- Which names are free does not depend on what is in the lumps. -/
theorem reserve_withBuffer (p : Press) (b : Buffer) (name : String) (id : Int) :
    ({ p with buffer := b } : Press).reserve name id =
      ((p.reserve name id).1, { (p.reserve name id).2 with buffer := b }) := by
  unfold reserve
  split <;> rfl

theorem reserveAll_withBuffer (p : Press) (b : Buffer) (scratches : List Scratch) :
    ({ p with buffer := b } : Press).reserveAll scratches =
      ((p.reserveAll scratches).1, { (p.reserveAll scratches).2 with buffer := b }) := by
  induction scratches generalizing p with
  | nil => rfl
  | cons s scratches ih =>
      rw [reserveAll_cons, reserveAll_cons, reserve_withBuffer]
      dsimp only
      rw [ih]

end Press

namespace Desk

variable {α β : Type} {d d' : Desk} {e : ConversionError}

/-! ### What steps do -/

theorem run_bind_of_ok {x : Work α} {a : α} (hx : x.run d = .ok a d') (next : α → Work β) :
    (x >>= next).run d = (next a).run d' := by
  change EStateM.bind x next d = _
  unfold EStateM.bind
  change x d = _ at hx
  rw [hx]
  rfl

theorem run_bind_of_error {x : Work α} (hx : x.run d = .error e d') (next : α → Work β) :
    (x >>= next).run d = .error e d' := by
  change EStateM.bind x next d = _
  unfold EStateM.bind
  change x d = _ at hx
  rw [hx]

theorem run_forM_cons (i : α) (items : List α) (work : α → Work Unit) (d : Desk) :
    (forM (i :: items) work).run d = (work i >>= fun _ => forM items work).run d := rfl

theorem run_select (k : LumpKind) (p : Press) (pending : List Scratch) :
    (select k).run ⟨p, pending⟩ = .ok () ⟨{ p with buffer := p.buffer.select k }, pending⟩ := rfl

theorem run_print (text : String) (p : Press) (pending : List Scratch) :
    (print text).run ⟨p, pending⟩ = .ok () ⟨{ p with buffer := p.buffer.print text }, pending⟩ := rfl

theorem run_release (p : Press) (pending : List Scratch) :
    release.run ⟨p, pending⟩ = .ok () ⟨{ p with buffer := p.buffer.release }, pending⟩ := rfl

theorem run_warn (ws : List Warning) (p : Press) (pending : List Scratch) :
    (warn ws).run ⟨p, pending⟩ = .ok () ⟨p.warn ws, pending⟩ := rfl

theorem run_claim (name : String) (id : Int) (p : Press) (pending : List Scratch) :
    (claim name id).run ⟨p, pending⟩ = .ok (p.reserve name id).1 ⟨(p.reserve name id).2, pending⟩ := rfl

theorem run_note (s : Scratch) (p : Press) (pending : List Scratch) :
    (note s).run ⟨p, pending⟩ = .ok () ⟨(p.reserve s.name s.frame).2,
      if (p.reserve s.name s.frame).1 then pending ++ [s] else pending⟩ := by
  unfold note
  rw [run_bind_of_ok (run_claim _ _ p pending)]
  cases (p.reserve s.name s.frame).1 <;> rfl

/-- Scratch attacks whose names are free are pending when they are noted. -/
theorem run_notes (scratches : List Scratch) (p : Press) (pending : List Scratch) :
    (forM scratches note).run ⟨p, pending⟩ =
      .ok () ⟨(p.reserveAll scratches).2, pending ++ (p.reserveAll scratches).1⟩ := by
  induction scratches generalizing p pending with
  | nil =>
      change EStateM.Result.ok () (Desk.mk p pending) = _
      simp [Press.reserveAll]
  | cons s scratches ih =>
      rw [run_forM_cons, run_bind_of_ok (run_note s p pending), ih, Press.reserveAll_cons]
      cases (p.reserve s.name s.frame).1 <;> simp

theorem run_prints (text : α → String) (items : List α) (p : Press) (pending : List Scratch) :
    (forM items fun i => print (text i)).run ⟨p, pending⟩ =
      .ok () ⟨{ p with buffer := (items.map text).foldl Buffer.print p.buffer }, pending⟩ := by
  induction items generalizing p with
  | nil => rfl
  | cons i items ih => rw [run_forM_cons, run_bind_of_ok (run_print _ p pending), ih, List.map_cons, List.foldl_cons]

section Selected

variable {p : Press} {k : LumpKind} (hcurrent : p.buffer.current = some k) (pending : List Scratch)

include hcurrent

/-- A definition that is printed line by line is there as one text. -/
theorem run_printBlock (b : Block) :
    (printBlock b).run ⟨p, pending⟩ = .ok () ⟨{ p with buffer := p.buffer.print b.text }, pending⟩ := by
  unfold printBlock
  rw [run_bind_of_ok (run_print _ p pending), run_bind_of_ok (run_prints _ _ _ pending), run_print]
  dsimp only
  rw [Buffer.foldl_print (Buffer.current_print hcurrent b.header), Buffer.print_print hcurrent,
    Buffer.print_print hcurrent]
  rfl

theorem run_printBlocks (block : α → Block) (items : List α) :
    (forM items fun i => printBlock (block i)).run ⟨p, pending⟩ =
      .ok () ⟨{ p with buffer := p.buffer.print (String.join (items.map fun i => (block i).text)) }, pending⟩ := by
  induction items generalizing p with
  | nil =>
      change EStateM.Result.ok () (Desk.mk p pending) = _
      rw [List.map_nil, String.join_nil, Buffer.print_empty hcurrent]
  | cons i items ih =>
      rw [run_forM_cons, run_bind_of_ok (run_printBlock hcurrent pending (block i)),
        ih (Buffer.current_print hcurrent _), List.map_cons, String.join_cons]
      dsimp only
      rw [Buffer.print_print hcurrent]

end Selected

/-- Pending scratch attacks are written as a press writes them. -/
theorem run_flush (p : Press) (pending : List Scratch) :
    flush.run ⟨p, pending⟩ = .ok () ⟨p.writeScratches pending, []⟩ := by
  have hget : (get : Work Desk).run ⟨p, pending⟩ = .ok ⟨p, pending⟩ ⟨p, pending⟩ := rfl
  unfold flush
  rw [run_bind_of_ok hget]
  cases pending with
  | nil => rfl
  | cons s rest =>
      change (select .attacks >>= fun _ => _).run _ = _
      rw [run_bind_of_ok (run_select .attacks p _),
        run_bind_of_ok (run_printBlocks (p.buffer.current_select .attacks) _ _ _)]
      rfl

section Define

variable (p : Press) (kind : LumpKind) (block : Block) (scratches : List Scratch) (warnings : List Warning)

/-- A definition is written step by step as a press writes it at once. -/
theorem run_define (attack : Option Int) :
    (define kind block scratches warnings).run ⟨p, []⟩ =
      .ok () ⟨p.writeDraft ⟨kind, attack, block, scratches, warnings⟩, []⟩ := by
  let opened : Buffer := (p.buffer.select kind).print block.header
  have hopened : opened.current = some kind := Buffer.current_print (p.buffer.current_select _) _
  have hnotes : (forM scratches note).run ⟨{ p with buffer := opened }, []⟩ =
      .ok () ⟨{ (p.reserveAll scratches).2 with buffer := opened }, (p.reserveAll scratches).1⟩ := by
    rw [run_notes, Press.reserveAll_withBuffer, List.nil_append]
  -- What is printed before and behind the notes is one text.
  have hprinted : ((block.clauses.map Clause.text).foldl Buffer.print opened).print "\n" =
      (p.buffer.select kind).print block.text := by
    have hselected := p.buffer.current_select kind
    rw [Buffer.foldl_print hopened, Buffer.print_print hselected, Buffer.print_print hselected]
    rfl
  unfold define
  rw [run_bind_of_ok (run_select _ p []), run_bind_of_ok (run_print _ _ []), run_bind_of_ok hnotes,
    run_bind_of_ok (run_warn _ _ _), run_bind_of_ok (run_prints _ _ _ _), run_bind_of_ok (run_print _ _ _),
    run_bind_of_ok (run_release _ _), run_flush]
  dsimp only [Press.warn]
  rw [hprinted]
  unfold Press.writeDraft Press.write Buffer.write
  dsimp only [Press.warn]
  rw [Press.buffer_reserveAll]

/-- An attack is defined once its name is claimed, and otherwise left out. -/
theorem run_claimed (id : Int) :
    (claim block.name id >>= fun fresh => if fresh then define kind block scratches warnings else pure ()).run ⟨p, []⟩ =
      .ok () ⟨p.publish ⟨kind, some id, block, scratches, warnings⟩, []⟩ := by
  rw [run_bind_of_ok (run_claim _ _ p [])]
  unfold Press.publish
  dsimp only
  cases (p.reserve block.name id).1 with
  | false => rfl
  | true => exact run_define _ kind block scratches warnings (some id)

end Define

/-! ### What conversions do -/

/-- Work that does at a desk what a draft does at a press.  Without a draft it fails, and the desk stays as it is. -/
def Follows (work : Work Unit) (draft : Except ConversionError Draft) : Prop :=
  ∀ p : Press, work.run ⟨p, []⟩ =
    match draft with
    | .ok d => .ok () ⟨p.publish d, []⟩
    | .error e => .error e ⟨p, []⟩

theorem cube_follows (v : View) : Follows (cube v) (Draft.cube v) := by
  intro p
  unfold cube Draft.cube
  cases v.thing? AttackEntry.spawnShot with
  | none => rfl
  | some shot =>
      cases v.thing? AttackEntry.spawnFire with
      | none => rfl
      | some fire =>
          let b := ThingDefinition.storyboard v shot.ddfName (AttackDefinition.cubeStarts shot fire)
          exact run_claimed p .attacks (AttackDefinition.block v AttackEntry.cube shot fire.seeSound b) b.scratches []
            AttackEntry.spawnShot

theorem thing_follows (v : View) (id : Int) (t : Thing) : Follows (thing v id t) (Draft.plainThing v id t) := by
  unfold thing Draft.plainThing
  by_cases hfire : id = AttackEntry.spawnFire
  · rw [if_pos hfire, if_pos hfire]
    exact cube_follows v
  · rw [if_neg hfire, if_neg hfire]
    intro p
    unfold Draft.thing
    cases ThingDefinition.shown? v id t with
    | none => rfl
    | some starts =>
        let b := ThingDefinition.storyboard v t.ddfName starts
        exact run_define p .things (ThingDefinition.block v id t b) b.scratches _ none

theorem projectile_follows (v : View) (id : Int) (t : Thing) :
    Follows (projectile v id t) (Draft.attackThing v id t) := by
  unfold projectile Draft.attackThing
  by_cases hshot : id = AttackEntry.spawnShot
  · rw [if_pos hshot, if_pos hshot]
    exact cube_follows v
  · rw [if_neg hshot, if_neg hshot]
    intro p
    cases AttackEntry.ofThing? id with
    | none => rfl
    | some e =>
        let b := ThingDefinition.storyboard v t.ddfName (AttackDefinition.starts t)
        exact run_claimed p .attacks (AttackDefinition.block v e t t.deathSound b) b.scratches [] id

theorem convertThing_follows (v : View) (id : Int) : Follows (convertThing v id) (Draft.ofThing v id) := by
  unfold convertThing Draft.ofThing
  cases v.thing? id with
  | none => exact fun p => rfl
  | some t =>
      change Follows (if t.isAttack then _ else _) (if t.isAttack then _ else _)
      cases t.isAttack with
      | true => exact projectile_follows v id t
      | false => exact thing_follows v id t

theorem convertWeapon_follows (v : View) (id : Int) : Follows (convertWeapon v id) (Draft.ofWeapon v id) := by
  unfold convertWeapon Draft.ofWeapon
  cases v.session.weapon? id with
  | none => exact fun p => rfl
  | some w =>
      let b := WeaponDefinition.storyboard v w
      exact fun p => run_define p .weapons (WeaponDefinition.block v w b) b.scratches [] none

theorem run_sounds (s : Session) (p : Press) : (sounds s).run ⟨p, []⟩ = .ok () ⟨p.convertSounds s, []⟩ := by
  unfold sounds Press.convertSounds
  cases s.sounds.isEmpty with
  | true => rfl
  | false =>
      change (select .sounds >>= fun _ => _).run _ = _
      rw [run_bind_of_ok (run_select .sounds p []),
        run_bind_of_ok (run_printBlocks (p.buffer.current_select .sounds) [] (fun b => b) _)]
      rfl

theorem run_language (s : Session) (p : Press) : (language s).run ⟨p, []⟩ = .ok () ⟨p.convertLanguage s, []⟩ := by
  unfold language Press.convertLanguage
  cases s.texts.isEmpty with
  | true => rfl
  | false =>
      change (select .language >>= fun _ => _).run _ = _
      rw [run_bind_of_ok (run_select .language p []),
        run_bind_of_ok (run_printBlock (p.buffer.current_select .language) [] _)]
      rfl

theorem run_triggers (v : View) (p : Press) : (triggers v).run ⟨p, []⟩ = .ok () ⟨p.convertTriggers v, []⟩ := by
  unfold triggers Press.convertTriggers
  cases BossTrigger.script? v <;> rfl

end Desk

/-! ### Everything that is modified -/

/-- What is converted with everything else, in the way it is converted then. -/
inductive Entity where
  | thing (id : Int)
  | projectile (id : Int)
  | cube
  | weapon (id : Int)
deriving DecidableEq

namespace Entity

/-- Converts an entity.  A hidden thing counts as a record without any values. -/
def convert (v : View) : Entity → Work Unit
  | thing id => Desk.thing v id (Conversion.record v id)
  | projectile id => Desk.projectile v id (Conversion.record v id)
  | cube => Desk.cube v
  | weapon id => Desk.convertWeapon v id

/-- The definition of an entity. -/
def draft (v : View) : Entity → Except ConversionError Draft
  | thing id => Draft.plainThing v id (Conversion.record v id)
  | projectile id => Draft.attackThing v id (Conversion.record v id)
  | cube => Draft.cube v
  | weapon id => Draft.ofWeapon v id

theorem convert_follows (v : View) (e : Entity) : Desk.Follows (e.convert v) (e.draft v) := by
  cases e with
  | thing id => exact Desk.thing_follows v id _
  | projectile id => exact Desk.projectile_follows v id _
  | cube => exact Desk.cube_follows v
  | weapon id => exact Desk.convertWeapon_follows v id

/-- All modified entities in the order in which they are converted. -/
def modified (v : View) : List Entity :=
  (v.session.things.keys.filter fun id =>
      !((Conversion.record v id).isAttack || id == AttackEntry.spawnFire)).map thing
    ++ (v.session.things.keys.filter fun id =>
      !(!(Conversion.record v id).isAttack || id == AttackEntry.spawnShot)).map projectile
    ++ (if v.session.things.contains AttackEntry.spawnShot || v.session.things.contains AttackEntry.spawnFire then
        [cube]
      else [])
    ++ v.session.weapons.keys.map weapon

theorem drafts_eq (v : View) : Conversion.drafts v = (modified v).map (draft v) := by
  unfold Conversion.drafts Conversion.things Conversion.projectiles Conversion.cubes Conversion.weapons modified
  simp only [List.map_append, List.map_map, Bool.not_or, Bool.not_not]
  congr 2
  split <;> rfl

end Entity

namespace Desk

theorem forM_unless {α : Type} (skips : α → Bool) (work : α → Work Unit) (items : List α) :
    (forM items fun i => unless skips i do work i) = forM (items.filter fun i => !skips i) work := by
  induction items with
  | nil => rfl
  | cons i items ih =>
      rw [List.forM_cons, ih]
      cases hskips : skips i with
      | true => simp [hskips]
      | false => simp [hskips]

/-- Everything is converted entity by entity. -/
theorem convertAll_eq (v : View) :
    convertAll v = (do
      forM (Entity.modified v) (Entity.convert v)
      sounds v.session
      language v.session
      triggers v) := by
  have hcube : ∀ modified : Bool,
      (forM (if modified then [Entity.cube] else []) (Entity.convert v) : Work Unit) =
        if modified then cube v else pure () := by
    intro modified
    cases modified with
    | true => exact bind_pure (cube v)
    | false => rfl
  unfold Entity.modified
  rw [List.forM_append, List.forM_append, List.forM_append, List.forM_map, List.forM_map, List.forM_map,
    ← forM_unless, ← forM_unless, hcube]
  simp only [bind_assoc]
  unfold convertAll
  cases v.session.things.contains AttackEntry.spawnShot || v.session.things.contains AttackEntry.spawnFire <;> rfl

/-- What a press makes of everything, as a result of work at its desk. -/
def outcome : Press × Option ConversionError → EStateM.Result ConversionError Desk Unit
  | (p, none) => .ok () ⟨p, []⟩
  | (p, some e) => .error e ⟨p, []⟩

theorem run_entities (v : View) (es : List Entity) (p : Press) :
    (forM es (Entity.convert v)).run ⟨p, []⟩ = outcome (p.publishAll (es.map (Entity.draft v))) := by
  induction es generalizing p with
  | nil => rfl
  | cons e es ih =>
      have hconvert := e.convert_follows v p
      rw [run_forM_cons, List.map_cons]
      cases hdraft : e.draft v with
      | error err =>
          rw [hdraft] at hconvert
          rw [run_bind_of_error hconvert]
          rfl
      | ok draft =>
          rw [hdraft] at hconvert
          rw [run_bind_of_ok hconvert, ih]
          rfl

/-- Everything is converted step by step as a press converts it. -/
theorem run_convertAll (v : View) (p : Press) : (convertAll v).run ⟨p, []⟩ = outcome (p.convertAll v) := by
  have hentities := run_entities v (Entity.modified v) p
  rw [← Entity.drafts_eq] at hentities
  rw [convertAll_eq]
  unfold Press.convertAll
  cases hall : p.publishAll (Conversion.drafts v) with
  | mk q failed =>
      rw [hall] at hentities
      cases failed with
      | some e =>
          rw [run_bind_of_error hentities]
          rfl
      | none =>
          rw [run_bind_of_ok hentities, run_bind_of_ok (run_sounds _ q), run_bind_of_ok (run_language _ _),
            run_triggers]
          rfl

end Desk
end DoomPatch
