import Mathlib.Data.List.Infix
import DoomPatch.Definition.Action
import DoomPatch.Proofs.Text.Bare

/-!
# Close attacks in the text of a state list

A definition strikes with a close attack in two ways: a clause names the attack, or an action of a state list does.
State lists are text, put together from names that a patch can change, so the actions are looked for in the text: what
stands between `CLOSE_ATTACK(` and the next closing bracket.  This module shows that nothing but the scratch attacks
of the frames is found there.

* `Clause.Strikes` — a clause strikes with an attack.
* `Opens` — a text contains `CLOSE_ATTACK(`, with something behind it.
* `Opens.split` — it lies on one side of every character that it does not contain.
* `exists_frame_of_opens` — in a state list it lies in the action of a frame.
* `Storyboard.exists_scratch_of_strikes` — the state lists of an animation strike with its scratch attacks.
-/

namespace DoomPatch

/-- What opens an action that strikes. -/
def strikeWord : List Char := "CLOSE_ATTACK(".toList

/-- A clause strikes with an attack: it names the attack, or it is a state list with an action that does. -/
def Clause.Strikes (c : Clause) (name : String) : Prop :=
  (c.key = "CLOSE_ATTACK" ∧ c.value = name) ∨
    ("STATES(".toList <+: c.key.toList ∧ ')' ∉ name.toList ∧ (strikeWord ++ name.toList ++ [')']) <:+: c.value.toList)

example : Clause.Strikes ⟨"STATES(MELEE)", "TROO:G:6:NORMAL:CLOSE_ATTACK(SCRATCH_IMP_454),\n    #CHASE"⟩
    "SCRATCH_IMP_454" := .inr (by decide)

/-- A text contains a word, and `tail` behind it. -/
def Opens (word text tail : List Char) : Prop := ∃ front, text = front ++ word ++ tail

namespace Opens

variable {word text tail left right : List Char}

/-- A word in front of a text ends before the first character that it does not contain. -/
theorem before {d : Char} (hd : d ∉ word) (heq : word ++ tail = left ++ d :: right) :
    ∃ rest, left = word ++ rest ∧ tail = rest ++ d :: right := by
  rcases List.append_eq_append_iff.1 heq with ⟨rest, hleft, htail⟩ | ⟨more, hword, htail⟩
  · exact ⟨rest, hleft, htail⟩
  · cases more with
    | nil => exact ⟨[], by simp [hword], by simpa using htail.symm⟩
    | cons c more =>
        cases htail
        exact absurd (by simp [hword]) hd

/-- A word lies on one side of every character that it does not contain. -/
theorem split {d : Char} (hd : d ∉ word) (h : Opens word (left ++ d :: right) tail) :
    (∃ rest, Opens word left rest ∧ tail = rest ++ d :: right) ∨ Opens word right tail := by
  obtain ⟨front, heq⟩ := h
  induction front generalizing left with
  | nil =>
      obtain ⟨rest, hleft, htail⟩ := before hd heq.symm
      exact .inl ⟨rest, ⟨[], hleft⟩, htail⟩
  | cons c front ih =>
      cases left with
      | nil =>
          cases heq
          exact .inr ⟨front, rfl⟩
      | cons c' left =>
          rw [List.cons_append, List.cons_append, List.cons_append, List.cons.injEq] at heq
          rcases ih heq.2 with ⟨rest, ⟨front', hfront⟩, htail⟩ | hright
          · exact .inl ⟨rest, ⟨c' :: front', by rw [hfront]; rfl⟩, htail⟩
          · exact .inr hright

/-- What a text lacks, the words in it lack. -/
theorem mem_of_mem {c : Char} (hc : c ∈ word) (h : Opens word text tail) : c ∈ text := by
  obtain ⟨front, rfl⟩ := h
  simp [hc]

theorem length_le (h : Opens word text tail) : word.length ≤ text.length := by
  obtain ⟨front, rfl⟩ := h
  simp
  omega

/-- In a text with one bracket, a word that ends with a bracket ends there. -/
theorem of_call (hleft : '(' ∉ left) (hright : '(' ∉ right) (h : Opens (word ++ ['(']) (left ++ '(' :: right) tail) :
    tail = right ∧ word <:+ left := by
  obtain ⟨front, heq⟩ := h
  have hsplit : left ++ '(' :: right = (front ++ word) ++ '(' :: tail := by simpa using heq
  rcases List.append_eq_append_iff.1 hsplit with ⟨more, hfront, hrest⟩ | ⟨more, hfront, hrest⟩
  · cases more with
    | nil =>
        cases hrest
        exact ⟨rfl, front, by simpa using hfront⟩
    | cons c more =>
        cases hrest
        exact absurd (by simp) hright
  · cases more with
    | nil =>
        cases hrest
        exact ⟨rfl, front, by simpa using hfront.symm⟩
    | cons c more =>
        cases hrest
        exact absurd (by simp [hfront]) hleft

end Opens

/-! ### Texts without an opening -/

/-- A text has no opening of a strike. -/
def Calm (text : List Char) : Prop := ∀ tail, ¬ Opens strikeWord text tail

theorem calm_of_not_mem {text : List Char} (hbracket : '(' ∉ text) : Calm text :=
  fun _ h => hbracket (h.mem_of_mem (by decide))

theorem calm_of_length_lt {text : List Char} (hlength : text.length < 13) : Calm text := by
  intro tail h
  have hle : strikeWord.length ≤ text.length := h.length_le
  have hword : strikeWord.length = 13 := by decide
  omega

/-! ### State lists -/

theorem opens_frame {d : Display} (hsprite : ∀ id, Calm (d.sprite id).toList) (r : Reel) (id : Int) {tail : List Char}
    (h : Opens strikeWord (d.frame r id).toList tail) :
    Opens strikeWord (d.action id ((r.frame? id).getD {})).toList tail := by
  -- Four colons lead to the action, and nothing between them has an opening.
  have hskip : ∀ {left right : List Char}, Calm left → Opens strikeWord (left ++ ':' :: right) tail →
      Opens strikeWord right tail := by
    intro left right hcalm hopens
    rcases hopens.split (by decide) with ⟨rest, hleft, -⟩ | hright
    · exact absurd hleft (hcalm rest)
    · exact hright
  let f := (r.frame? id).getD {}
  have htext : (d.frame r id).toList = (d.sprite f.sprite).toList ++ ':' ::
      ([Display.letter f.subSprite] ++ ':' :: ((toString f.tics).toList ++ ':' ::
        ((if f.bright then "BRIGHT" else "NORMAL").toList ++ ':' :: (d.action id f).toList))) := by
    unfold Display.frame
    cases hbright : f.bright <;> simp [f, hbright, toString]
  rw [htext] at h
  have hlight : Calm (if f.bright then "BRIGHT" else "NORMAL").toList := by
    split <;> exact calm_of_length_lt (by decide)
  have hletter : Calm [Display.letter f.subSprite] := calm_of_length_lt (by simp)
  exact hskip hlight (hskip (calm_of_not_mem (bare_toString _).1) (hskip hletter (hskip (hsprite _) h)))

/-- In a list of entries an opening lies in one of them. -/
theorem exists_entry_of_opens {entries : List String} {tail : List Char}
    (h : Opens strikeWord (",\n    ".intercalate entries).toList tail) :
    ∃ e ∈ entries, ∃ rest, Opens strikeWord e.toList rest ∧ (tail = rest ∨ ∃ more, tail = rest ++ ',' :: more) := by
  have hskip : ∀ {d : Char} {right : List Char}, d ∉ strikeWord → Opens strikeWord (d :: right) tail →
      Opens strikeWord right tail := by
    intro d right hd hopens
    have hempty : Opens strikeWord ([] ++ d :: right) tail := hopens
    rcases hempty.split hd with ⟨rest, hleft, -⟩ | hright
    · exact absurd hleft (calm_of_not_mem (by simp) rest)
    · exact hright
  induction entries with
  | nil => exact absurd h (calm_of_not_mem (by simp) tail)
  | cons e entries ih =>
      cases entries with
      | nil =>
          rw [String.intercalate_singleton] at h
          exact ⟨e, List.mem_cons_self, tail, h, .inl rfl⟩
      | cons e' entries =>
          have htext : (",\n    ".intercalate (e :: e' :: entries)).toList = e.toList ++ ',' ::
              ('\n' :: ' ' :: ' ' :: ' ' :: ' ' :: (",\n    ".intercalate (e' :: entries)).toList) := by
            rw [String.intercalate_cons_cons]
            simp
          rw [htext] at h
          rcases h.split (by decide) with ⟨rest, hhere, htail⟩ | hright
          · exact ⟨e, List.mem_cons_self, rest, hhere, .inr ⟨_, htail⟩⟩
          · have hlater := hskip (by decide) (hskip (by decide) (hskip (by decide) (hskip (by decide)
              (hskip (by decide) hright))))
            obtain ⟨e'', hmem, hrest⟩ := ih hlater
            exact ⟨e'', List.mem_cons_of_mem e hmem, hrest⟩

theorem calm_jump (j : Jump) : Calm j.text.toList := by
  apply calm_of_not_mem
  have htag : ∀ role : Role, '(' ∉ role.tag.toList := by
    intro role
    cases role <;> simp [Role.tag]
  have hnumber : ∀ k : Nat, '(' ∉ Nat.toDigits 10 k := fun k hmem =>
    absurd (Nat.isDigit_of_mem_toDigits (by decide) (by decide) hmem) (by decide)
  cases j with
  | loop => simp [Jump.text]
  | remove => simp [Jump.text]
  | into role k =>
      cases k with
      | zero => simpa [Jump.text] using htag role
      | succ k => simpa [Jump.text, toString] using ⟨htag role, hnumber (k + 2)⟩

theorem exists_group_of_mem_allStates {d : Display} {r : Reel} {groups : Animation} {e : String × String}
    (he : e ∈ d.allStates r groups) :
    ∃ g ∈ groups, e = (s!"STATES({g.role.tag})", ",\n    ".intercalate (d.entries r g)) := by
  obtain ⟨g₀, -, hstates⟩ := List.mem_filterMap.1 he
  unfold Display.states? at hstates
  cases hgroup : groups.group? g₀.role with
  | none =>
      rw [hgroup] at hstates
      cases hstates
  | some g =>
      have hrole : g.role = g₀.role := by simpa using List.find?_some hgroup
      rw [hgroup] at hstates
      dsimp only at hstates
      split at hstates
      · cases hstates
      · rw [← hrole] at hstates
        exact ⟨g, List.mem_of_find?_eq_some hgroup, (Option.some.inj hstates).symm⟩

/-- In the state lists of an animation an opening lies in the action of a frame. -/
theorem exists_frame_of_opens {d : Display} (hsprite : ∀ id, Calm (d.sprite id).toList) {r : Reel} {groups : Animation}
    {e : String × String} (he : e ∈ d.allStates r groups) {tail : List Char}
    (h : Opens strikeWord e.2.toList tail) :
    ∃ g ∈ groups, ∃ id ∈ g.frames, ∃ rest, Opens strikeWord (d.action id ((r.frame? id).getD {})).toList rest ∧
      (tail = rest ∨ ∃ more, tail = rest ++ ',' :: more) := by
  obtain ⟨g, hg, rfl⟩ := exists_group_of_mem_allStates he
  obtain ⟨entry, hentry, rest, hopens, htail⟩ := exists_entry_of_opens h
  rcases List.mem_append.1 hentry with hframe | hjump
  · obtain ⟨id, hid, rfl⟩ := List.mem_map.1 hframe
    exact ⟨g, hg, id, hid, rest, opens_frame hsprite r id hopens, htail⟩
  · split at hjump
    · cases hjump
    · rw [List.mem_singleton] at hjump
      subst hjump
      exact absurd hopens (calm_jump _ rest)

/-! ### Storyboards -/

/-- An action strikes with a scratch attack whose name has no brackets, or does not strike. -/
def Action.Tame (a : Action) : Prop :=
  match a.scratch? with
  | some s => Bare s.name
  | none => Calm a.text.toList

theorem Action.Tame.of_opens {a : Action} (htame : a.Tame) {tail : List Char}
    (h : Opens strikeWord a.text.toList tail) :
    ∃ s, a.scratch? = some s ∧ ')' ∉ s.name.toList ∧ tail = s.name.toList ++ [')'] := by
  cases a with
  | scratch s =>
      have hbare : Bare s.name := htame
      have htext : (Action.scratch s).text.toList =
          ['C', 'L', 'O', 'S', 'E', '_', 'A', 'T', 'T', 'A', 'C', 'K'] ++ '(' :: (s.name.toList ++ [')']) := by
        have hshown : (Action.scratch s).text = "CLOSE_ATTACK(" ++ s.name ++ ")" := rfl
        simp [hshown]
      have hword : strikeWord = ['C', 'L', 'O', 'S', 'E', '_', 'A', 'T', 'T', 'A', 'C', 'K'] ++ ['('] := rfl
      rw [htext, hword] at h
      exact ⟨s, rfl, hbare.2, (Opens.of_call (by decide) (by simpa using hbare.1) h).1⟩
  | range name | spawn name | sound ref | plain text => exact absurd h (htame tail)

/-- Two texts up to the first closing bracket are the same. -/
theorem eq_of_closed {a b x y : List Char} (ha : ')' ∉ a) (hb : ')' ∉ b) (heq : a ++ ')' :: x = b ++ ')' :: y) :
    a = b := by
  obtain ⟨rest, hleft, htail⟩ := Opens.before ha heq
  cases rest with
  | nil => simpa using hleft.symm
  | cons c rest =>
      cases htail
      exact absurd (by simp [hleft]) hb

/-- The state lists of an animation strike with the scratch attacks of its frames and with no others. -/
theorem Storyboard.exists_scratch_of_strikes {v : View} (hsprite : ∀ id, Calm (v.session.spriteName id).toList)
    {act : Int → Frame → Action} (hact : ∀ id f, (act id f).Tame) {groups : Animation} {c : Clause}
    (hc : c ∈ (ofAnimation v act groups).states) {name : String} (hstrikes : c.Strikes name) :
    ∃ s ∈ (ofAnimation v act groups).scratches, s.name = name := by
  obtain ⟨e, he, rfl⟩ := List.mem_map.1 hc
  rcases hstrikes with ⟨hkey, -⟩ | ⟨-, hname, front, rear, hvalue⟩
  · obtain ⟨g, -, rfl⟩ := exists_group_of_mem_allStates he
    have hfirst : (s!"STATES({g.role.tag})").toList.head? = "CLOSE_ATTACK".toList.head? := by rw [← hkey]
    simp [toString] at hfirst
  · have hopens : Opens strikeWord e.2.toList (name.toList ++ ')' :: rear) := ⟨front, by simp [← hvalue]⟩
    let d : Display := ⟨v.session.spriteName, fun id f => (act id f).text⟩
    obtain ⟨g, hg, id, hid, rest, haction, htail⟩ := exists_frame_of_opens (d := d) hsprite he hopens
    obtain ⟨s, hs, hclosed, rfl⟩ := (hact _ _).of_opens haction
    refine ⟨s, List.mem_flatMap.2 ⟨g, hg, List.mem_filterMap.2 ⟨id, hid, hs⟩⟩, ?_⟩
    have hsame : name.toList = s.name.toList := by
      rcases htail with htail | ⟨more, htail⟩
      · exact eq_of_closed hname hclosed htail
      · exact eq_of_closed hname hclosed (by simpa using htail)
    exact String.toList_inj.1 hsame.symm

end DoomPatch
