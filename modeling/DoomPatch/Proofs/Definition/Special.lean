import Mathlib.Data.List.Induction
import Mathlib.Data.List.Nodup
import DoomPatch.Definition.Special
import DoomPatch.Proofs.Chain.Collect
import DoomPatch.Proofs.Flag.Listing

/-!
# Which specials a thing has

Four sources give specials to a thing: its flag word under the rules of old patches, being a monster, its type, and its
extended flag word.  The last two have names in common, but neither shares a name with the first two, so each name can
be traced back to what it stands for.

* `Special.mem_distinct`, `Special.nodup_distinct` — a list of names, each once.
* `Special.Bears`, `Special.hasAll_adjusted` — the flags of a thing under the rules of old patches.
* `Monster.Accepted`, `Special.isMonster_iff` — the things that count as monsters.
* `Special.mem_ofThing_flag`, `Special.monster_mem_ofThing`, `Special.disloyal_mem_ofThing`,
  `Special.mem_ofThing_other` — when each name is a special of a thing.
-/

namespace DoomPatch

/-! ### Names, each once -/

namespace Special

/-- Keeps the names seen, and adds one that is new. -/
theorem distinct_append_singleton (names : List String) (name : String) :
    distinct (names ++ [name]) =
      if (distinct names).contains name then distinct names else distinct names ++ [name] := by
  unfold distinct
  rw [List.foldl_append]
  rfl

theorem mem_distinct (names : List String) (name : String) : name ∈ distinct names ↔ name ∈ names := by
  induction names using List.reverseRecOn with
  | nil => exact iff_of_false List.not_mem_nil List.not_mem_nil
  | append_singleton names last ih =>
      rw [distinct_append_singleton, List.mem_append, List.mem_singleton, ← ih]
      split
      · next hseen =>
        have hlast : last ∈ distinct names := by simpa using hseen
        constructor
        · exact .inl
        · rintro (hname | rfl)
          · exact hname
          · exact hlast
      · rw [List.mem_append, List.mem_singleton]

theorem nodup_distinct (names : List String) : (distinct names).Nodup := by
  induction names using List.reverseRecOn with
  | nil => exact List.nodup_nil
  | append_singleton names last ih =>
      rw [distinct_append_singleton]
      split
      · exact ih
      · next hseen =>
        have hnew : last ∉ distinct names := by simpa using hseen
        exact List.nodup_append_comm.1 (List.nodup_cons.2 ⟨hnew, ih⟩)

/-! ### Flags under the rules of old patches -/

/-- A thing bears a flag: it has it in its word, or its mass is negative and hangs it from the ceiling, or it bounces and
so can be shot. -/
def Bears (t : Thing) (bit : UInt32) : Prop :=
  t.has bit = true ∨ (t.mass < 0 ∧ (bit = ThingFlag.spawnCeiling ∨ bit = ThingFlag.noGravity)) ∨
    (t.has ThingFlag.bounces = true ∧ bit = ThingFlag.shootable)

theorem hasAll_flag_iff {a bit : UInt32} (ha : Word.IsFlag a) (hbit : Word.IsFlag bit) :
    Word.hasAll a bit = true ↔ bit = a :=
  ⟨fun hall => (Word.eq_of_hasAll_flag ha hbit hall).symm, fun heq => heq ▸ Word.hasAll_self a⟩

theorem hasAll_adjusted (t : Thing) {bit : UInt32} (hbit : Word.IsFlag bit) :
    Word.hasAll (adjusted t) bit = true ↔ Bears t bit := by
  have hceiling : Word.IsFlag ThingFlag.spawnCeiling := ⟨8, by decide, by decide⟩
  have hgravity : Word.IsFlag ThingFlag.noGravity := ⟨9, by decide, by decide⟩
  have hbounces : Word.IsFlag ThingFlag.bounces := ⟨29, by decide, by decide⟩
  have hshootable : Word.IsFlag ThingFlag.shootable := ⟨2, by decide, by decide⟩
  -- The rule of the mass comes first; it never makes a thing bounce.
  let hung := if t.mass < 0 then t.flags ||| ThingFlag.spawnCeiling ||| ThingFlag.noGravity else t.flags
  have hhung : ∀ {b : UInt32}, Word.IsFlag b → (Word.hasAll hung b = true ↔
      t.has b = true ∨ (t.mass < 0 ∧ (b = ThingFlag.spawnCeiling ∨ b = ThingFlag.noGravity))) := by
    intro b hb
    by_cases hmass : t.mass < 0
    · simp only [hung, if_pos hmass, Word.hasAll_or hb, Bool.or_eq_true, hasAll_flag_iff hceiling hb,
        hasAll_flag_iff hgravity hb, hmass, true_and, Thing.has, or_assoc]
    · simp only [hung, if_neg hmass, hmass, false_and, or_false, Thing.has]
  have hbounce : Word.hasAll hung ThingFlag.bounces = t.has ThingFlag.bounces := by
    rw [Bool.eq_iff_iff, hhung hbounces]
    have hother : ¬ (ThingFlag.bounces = ThingFlag.spawnCeiling ∨ ThingFlag.bounces = ThingFlag.noGravity) := by decide
    simp only [hother, and_false, or_false]
  have hword : adjusted t = if t.has ThingFlag.bounces then hung ||| ThingFlag.shootable else hung := by
    rw [← hbounce]
    rfl
  rw [hword, Bears]
  by_cases hb : t.has ThingFlag.bounces = true
  · rw [if_pos hb, Word.hasAll_or hbit, Bool.or_eq_true, hhung hbit, hasAll_flag_iff hshootable hbit, or_assoc]
    simp only [hb, true_and]
  · rw [if_neg hb, hhung hbit]
    simp only [hb, Bool.false_eq_true, false_and, or_false]

end Special

/-! ### Monsters -/

namespace Monster

/-- A frame of a chain behaves in a given way. -/
def Shows (r : Reel) (start : Int) (behaviour : UInt32) : Prop :=
  ∃ id ∈ r.chain start, Word.hasAll (r.flags id) behaviour = true

/-- A thing counts as a monster once its animations are known: it is placed on maps, no projectile and no player, and
it counts as a kill, or it is no item and its score with what its animations show reaches 370. -/
def Accepted (r : Reel) (t : Thing) : Prop :=
  0 < t.doomedNum ∧ t.isAttack = false ∧ t.player = 0 ∧
    (t.has ThingFlag.countKill = true ∨
      (t.has ThingFlag.special = false ∧ t.has ThingFlag.countItem = false ∧
        ∃ c : Conduct, (c.chase = true ↔ Shows r t.see Behaviour.chase) ∧
          (c.fall = true ↔ Shows r t.death Behaviour.fall ∨ Shows r t.xdeath Behaviour.fall) ∧
          370 ≤ score t (some c)))

theorem conduct_iff (r : Reel) (t : Thing) (c : Conduct) :
    c = conduct r t ↔ (c.chase = true ↔ Shows r t.see Behaviour.chase) ∧
      (c.fall = true ↔ Shows r t.death Behaviour.fall ∨ Shows r t.xdeath Behaviour.fall) := by
  have hchase : (conduct r t).chase = true ↔ Shows r t.see Behaviour.chase :=
    r.hasAll_chainFlags t.see ⟨3, by decide, by decide⟩
  have hfall : (conduct r t).fall = true ↔ Shows r t.death Behaviour.fall ∨ Shows r t.xdeath Behaviour.fall := by
    have hflag : Word.IsFlag Behaviour.fall := ⟨4, by decide, by decide⟩
    have hor : (conduct r t).fall =
        (Word.hasAll (r.chainFlags t.death) Behaviour.fall || Word.hasAll (r.chainFlags t.xdeath) Behaviour.fall) :=
      Word.hasAll_or hflag _ _
    rw [hor, Bool.or_eq_true, r.hasAll_chainFlags _ hflag, r.hasAll_chainFlags _ hflag]
    rfl
  rw [← hchase, ← hfall, ← Bool.eq_iff_iff, ← Bool.eq_iff_iff]
  cases c
  cases conduct r t
  simp

end Monster

namespace Special

theorem isMonster_iff (v : View) (t : Thing) : isMonster v t = true ↔ Monster.Accepted v.reel t := by
  have hscore : (∃ c : Conduct, (c.chase = true ↔ Monster.Shows v.reel t.see Behaviour.chase) ∧
      (c.fall = true ↔ Monster.Shows v.reel t.death Behaviour.fall ∨ Monster.Shows v.reel t.xdeath Behaviour.fall) ∧
      370 ≤ Monster.score t (some c)) ↔ 370 ≤ Monster.score t (some (Monster.conduct v.reel t)) := by
    simp only [← and_assoc, ← Monster.conduct_iff, exists_eq_left]
  rw [Monster.Accepted, hscore]
  show Monster.judge t (some (Monster.conduct v.reel t)) = true ↔ _
  have hthreshold : Monster.threshold (some (Monster.conduct v.reel t)) = 370 := rfl
  rw [Monster.judge, hthreshold]
  split
  · next hout =>
    refine iff_of_false Bool.false_ne_true ?_
    rintro ⟨hplaced, hattack, hplayer, -⟩
    simp only [hattack, hplayer, Bool.or_eq_true, decide_eq_true_eq, bne_self_eq_false, Bool.false_eq_true,
      or_false] at hout
    omega
  · next hout =>
    have hplaced : 0 < t.doomedNum ∧ t.isAttack = false ∧ t.player = 0 := by simpa [and_assoc] using hout
    split
    · next hkill => exact iff_of_true rfl ⟨hplaced.1, hplaced.2.1, hplaced.2.2, .inl hkill⟩
    · next hkill =>
      split
      · next hitem =>
        refine iff_of_false Bool.false_ne_true ?_
        rintro ⟨-, -, -, hcount | ⟨hspecial, hcount, -⟩⟩
        · exact hkill hcount
        · simp [hspecial, hcount] at hitem
      · next hitem =>
        have hplain : t.has ThingFlag.special = false ∧ t.has ThingFlag.countItem = false := by simpa using hitem
        simp [hplaced, hkill, hplain]

/-! ### The specials of a thing -/

/-- The specials that types give. -/
def conferred : List String := ["TRIGGER_HAPPY", "EXPLODE_IMMUNE", "BOSSMAN", "NEVERTARGETED"]

theorem mem_conferred {id : Int} {name : String} (hname : name ∈ ofIdentity id) : name ∈ conferred := by
  have hall : ∀ names ∈ [["TRIGGER_HAPPY"], ["TRIGGER_HAPPY", "EXPLODE_IMMUNE", "BOSSMAN"], ["NEVERTARGETED"], []],
      ∀ name ∈ names, name ∈ conferred := by decide
  unfold ofIdentity at hname
  split at hname <;> exact hall _ (by simp) name hname

theorem mem_names_iff {table : List (UInt32 × String)} {word : UInt32} {name : String} :
    name ∈ names table word ↔ ∃ bit, (bit, name) ∈ table ∧ Word.hasAll word bit = true := by
  simp [names]

/-- The names of flags, of monsters, and those of types and extended flags are apart, and each flag has a name of its
own. -/
theorem flags_apart : (ofFlags.map (·.2)).Nodup ∧
    ∀ e ∈ ofFlags, e.2 ∉ ["MONSTER", "DISLOYAL"] ∧ e.2 ∉ conferred ∧ e.2 ∉ ofExtendedFlags.map (·.2) := by
  decide

theorem monster_apart : ∀ name ∈ ["MONSTER", "DISLOYAL"], name ∉ conferred ∧ name ∉ ofExtendedFlags.map (·.2) := by
  decide

theorem isFlag_of_mem_ofFlags {e : UInt32 × String} (he : e ∈ ofFlags) : Word.IsFlag e.1 := by
  have hall : ∀ e ∈ ofFlags, ∃ k < 32, e.1 = ⟨BitVec.twoPow 32 k⟩ := by decide
  exact hall e he

variable (v : View) (id : Int) (t : Thing)

theorem mem_ofThing_iff (name : String) :
    name ∈ ofThing v id t ↔ name ∈ names ofFlags (adjusted t) ∨ name ∈ ofMonster v t ∨ name ∈ ofIdentity id ∨
      name ∈ names ofExtendedFlags t.mbf21 := by
  simp only [ofThing, mem_distinct, List.mem_append, or_assoc]

theorem mem_ofMonster_iff (name : String) :
    name ∈ ofMonster v t ↔
      Monster.Accepted v.reel t ∧ (name = "MONSTER" ∨ (name = "DISLOYAL" ∧ v.session.misc.infight = 221)) := by
  have hinfight : v.session.misc.infighting = true ↔ v.session.misc.infight = 221 := beq_iff_eq
  rw [← isMonster_iff]
  unfold ofMonster
  by_cases hmonster : isMonster v t = true
  · by_cases hon : v.session.misc.infight = 221
    · simp [hmonster, hinfight, hon]
    · simp [hmonster, hinfight, hon]
  · simp [hmonster]

/-- A name of the flag table is listed exactly if the thing bears the flag. -/
theorem mem_ofThing_flag {e : UInt32 × String} (he : e ∈ ofFlags) : e.2 ∈ ofThing v id t ↔ Bears t e.1 := by
  obtain ⟨hnodup, hapart⟩ := flags_apart
  obtain ⟨hmonster, hconferred, hextended⟩ := hapart e he
  rw [mem_ofThing_iff, ← hasAll_adjusted t (isFlag_of_mem_ofFlags he), mem_names_iff, mem_names_iff, mem_ofMonster_iff]
  constructor
  · rintro (⟨bit, hbit, hall⟩ | ⟨-, hname⟩ | hname | ⟨bit, hbit, -⟩)
    · -- The entry under this name is the only one.
      have hentry : (bit, e.2) = e := List.inj_on_of_nodup_map hnodup hbit he rfl
      rwa [← hentry]
    · refine absurd (List.mem_pair.2 ?_) hmonster
      exact hname.imp_right (·.1)
    · exact absurd (mem_conferred hname) hconferred
    · exact absurd (List.mem_map.2 ⟨_, hbit, rfl⟩) hextended
  · exact fun hall => .inl ⟨e.1, he, hall⟩

/-- The names of monsters come from nowhere else. -/
theorem mem_ofThing_monster {name : String} (hname : name ∈ ["MONSTER", "DISLOYAL"]) :
    name ∈ ofThing v id t ↔ name ∈ ofMonster v t := by
  obtain ⟨hconferred, hextended⟩ := monster_apart name hname
  rw [mem_ofThing_iff, mem_names_iff, mem_names_iff]
  constructor
  · rintro (⟨bit, hbit, -⟩ | hmonster | hidentity | ⟨bit, hbit, -⟩)
    · exact absurd hname (flags_apart.2 _ hbit).1
    · exact hmonster
    · exact absurd (mem_conferred hidentity) hconferred
    · exact absurd (List.mem_map.2 ⟨_, hbit, rfl⟩) hextended
  · exact fun hmonster => .inr (.inl hmonster)

theorem monster_mem_ofThing : "MONSTER" ∈ ofThing v id t ↔ Monster.Accepted v.reel t := by
  rw [mem_ofThing_monster v id t (by decide), mem_ofMonster_iff]
  simp

theorem disloyal_mem_ofThing :
    "DISLOYAL" ∈ ofThing v id t ↔ Monster.Accepted v.reel t ∧ v.session.misc.infight = 221 := by
  rw [mem_ofThing_monster v id t (by decide), mem_ofMonster_iff]
  simp

/-- Any other name is listed exactly if the type of the thing or one of its extended flags has it. -/
theorem mem_ofThing_other {name : String} (hflags : name ∉ ofFlags.map (·.2)) (hmonster : name ∉ ["MONSTER", "DISLOYAL"]) :
    name ∈ ofThing v id t ↔
      name ∈ ofIdentity id ∨ ∃ bit, (bit, name) ∈ ofExtendedFlags ∧ Word.hasAll t.mbf21 bit = true := by
  rw [mem_ofThing_iff, mem_names_iff, mem_names_iff, mem_ofMonster_iff]
  constructor
  · rintro (⟨bit, hbit, -⟩ | ⟨-, hname⟩ | hrest)
    · exact absurd (List.mem_map.2 ⟨_, hbit, rfl⟩) hflags
    · refine absurd (List.mem_pair.2 ?_) hmonster
      exact hname.imp_right (·.1)
    · exact hrest
  · exact fun hrest => .inr (.inr hrest)

end Special
end DoomPatch
