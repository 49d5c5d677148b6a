import DoomPatch.Proofs.Session.Closure

/-!
# What a refused edit leaves behind

An edit that is refused leaves warnings, and the session is the same in all else.  Most edits come down to one change,
and leave one warning at most.  A flag expression leaves a warning for each token that is no flag, and one more where
the number of its record is refused.  The number is not looked at when nothing is known of the expression.

* `complaints_of_admits`, `exists_complaint` — a change leaves one warning where it is not carried out, and else none.
* `changes_of_plain`, `changes_of_bits` — what edits without and with a flag expression come down to.
* `apply_of_plain`, `apply_of_bits` — the warnings they leave, and when they leave nothing else.
* `applyAll_of_fault` — edits that stop at a fault have the effect of those in front of it.
* `refused_edit_warns` — the four put together.
-/

namespace DoomPatch

/-- The flag expression of an edit that replaces a flag word: its flags, the number of the record and the tokens. -/
def Edit.bits? : Edit → Option (Vocabulary × Int × String)
  | .thingBits id tokens => some (.thing, id, tokens)
  | .thingExtendedBits id tokens => some (.extended, id, tokens)
  | .weaponBits id tokens => some (.weapon, id, tokens)
  | _ => none

namespace Session

variable {s s' : Session} {c : Change} {e : Edit}

/-- The session refuses the number of the record whose flag word an edit replaces. -/
def rejects (s : Session) : Edit → Bool
  | .thingBits id _ | .thingExtendedBits id _ => !(s.openThing id).isOk
  | .weaponBits id _ => !(s.openWeapon id).isOk
  | _ => false

/-! ### One change -/

theorem refusal_of_isOk {ρ : Type} {found : Except RangeError ρ} (hok : found.isOk = true) (entity : String)
    (id : Int) (field : String) : refusal entity id field found = [] := by
  obtain ⟨r, rfl⟩ := exists_ok_of_isOk hok
  rfl

theorem refusal_of_not_isOk {ρ : Type} {found : Except RangeError ρ} (hok : found.isOk = false) (entity : String)
    (id : Int) (field : String) : ∃ w, refusal entity id field found = [w] := by
  cases found with
  | error err => exact ⟨_, rfl⟩
  | ok r => cases hok

/-- A change that is carried out leaves no warning. -/
theorem complaints_of_admits (hadmits : s.admits c = true) : s.complaints c = [] := by
  cases c with
  | warn w => cases hadmits
  | thing id field alter | frame id field alter | weapon id field alter | ammo id field alter
  | sound id field alter => exact refusal_of_isOk hadmits _ _ _
  | misc field value | sprite id name | text ref value => rfl

/-- A change that is not carried out leaves one warning. -/
theorem exists_complaint (hadmits : s.admits c = false) : ∃ w, s.complaints c = [w] := by
  cases c with
  | warn w => exact ⟨w, rfl⟩
  | thing id field alter | frame id field alter | weapon id field alter | ammo id field alter
  | sound id field alter => exact refusal_of_not_isOk hadmits _ _ _
  | misc field value | sprite id name | text ref value => cases hadmits

/-- A change is carried out without a warning, or leaves one warning and nothing else. -/
theorem carry_warns (s : Session) (c : Change) :
    (s.admits c = true ∧ (s.carry c).warnings = s.warnings) ∨
      (s.admits c = false ∧ ∃ w, s.carry c = { s with warnings := s.warnings ++ [w] }) := by
  cases hadmits : s.admits c with
  | true =>
      refine .inl ⟨rfl, ?_⟩
      rw [carry_eq, complaints_of_admits hadmits]
      exact List.append_nil _
  | false =>
      obtain ⟨w, hw⟩ := exists_complaint hadmits
      refine .inr ⟨rfl, w, ?_⟩
      rw [carry_of_not_admits hadmits, hw]

/-! ### One edit -/

/-- Only an edit of a kind that does not exist is a fault. -/
theorem exists_apply (he : ∀ kind, e ≠ .unknown kind) (s : Session) : ∃ s', s.apply e = .ok s' := by
  cases e with
  | unknown kind => exact absurd rfl (he kind)
  | _ => exact ⟨_, rfl⟩

/-- An edit without a flag expression comes down to one change. -/
theorem changes_of_plain (hplain : e.bits? = none) (he : ∀ kind, e ≠ .unknown kind) (s : Session) :
    ∃ c, s.changes e = [c] := by
  cases e with
  | thingBits id tokens | thingExtendedBits id tokens | weaponBits id tokens => cases hplain
  | unknown kind => exact absurd rfl (he kind)
  | _ => exact ⟨_, rfl⟩

/-- An edit with a flag expression comes down to warnings and a change of the record with its number. -/
theorem changes_of_bits {v : Vocabulary} {id : Int} {tokens : String} (hbits : e.bits? = some (v, id, tokens)) :
    ∃ change : UInt32 → Change, (∀ s : Session, s.changes e = bitsChanges v e.entity id tokens change) ∧
      ∀ (s : Session) word, s.admits (change word) = !s.rejects e := by
  cases e with
  | thingBits i expression =>
      cases hbits
      exact ⟨fun word => .thing id _ fun t => { t with flags := word }, fun _ => rfl, fun _ _ => (Bool.not_not _).symm⟩
  | thingExtendedBits i expression =>
      cases hbits
      exact ⟨fun word => .thing id _ fun t => { t with mbf21 := word }, fun _ => rfl, fun _ _ => (Bool.not_not _).symm⟩
  | weaponBits i expression =>
      cases hbits
      exact ⟨fun word => .weapon id _ fun w => { w with flags := word }, fun _ => rfl,
        fun _ _ => (Bool.not_not _).symm⟩
  | _ => cases hbits

/-- An edit without a flag expression leaves at most one warning, and nothing else where it leaves one. -/
theorem apply_of_plain (hplain : e.bits? = none) (happly : s.apply e = .ok s') :
    s'.warnings = s.warnings ∨ ∃ w, s' = { s with warnings := s.warnings ++ [w] } := by
  have he : ∀ kind, e ≠ .unknown kind := by
    rintro kind rfl
    cases happly
  obtain ⟨c, hc⟩ := changes_of_plain hplain he s
  have hcarry : s' = s.carry c := by
    rw [apply_eq_carryAll happly, hc, carryAll_singleton]
  rcases s.carry_warns c with ⟨-, hquiet⟩ | ⟨-, hwarned⟩
  · exact .inl (hcarry ▸ hquiet)
  · exact .inr (hcarry ▸ hwarned)

/-- An edit with a flag expression leaves a warning for each token that is no flag, and one more if something is known
of the expression and the number is refused.  In that case, and if nothing is known of the expression, it leaves
nothing else. -/
theorem apply_of_bits {v : Vocabulary} {id : Int} {tokens : String} {word : UInt32} {unknown : List String}
    (hbits : e.bits? = some (v, id, tokens)) (hparse : FlagExpression.parse v tokens = (word, unknown))
    (happly : s.apply e = .ok s') :
    ∃ refused : List Warning,
      s'.warnings = s.warnings ++ unknown.map (tokenWarning v e.entity id) ++ refused ∧
      refused.length = (if s.rejects e = true ∧ ¬ (word = 0 ∧ unknown ≠ []) then 1 else 0) ∧
      (s.rejects e = true ∨ (word = 0 ∧ unknown ≠ []) → s' = { s with warnings := s'.warnings }) := by
  obtain ⟨change, hchanges, hadmits⟩ := changes_of_bits hbits
  -- The warnings of the tokens come first, and decide nothing about the record.
  let u : Session := { s with warnings := s.warnings ++ unknown.map (tokenWarning v e.entity id) }
  have hu : u.rejects e = s.rejects e := by cases e <;> rfl
  have hafter : s' = u.carryAll (if word = 0 ∧ unknown ≠ [] then [] else [change word]) := by
    rw [apply_eq_carryAll happly, hchanges, bitsChanges, hparse]
    dsimp only
    rw [carryAll_append, carryAll_warn]
  by_cases hblank : word = 0 ∧ unknown ≠ []
  · rw [if_pos hblank] at hafter
    refine ⟨[], ?_, ?_, ?_⟩
    · rw [hafter, List.append_nil]
      rfl
    · rw [if_neg fun h => h.2 hblank]
      rfl
    · rw [hafter]
      exact fun _ => rfl
  · rw [if_neg hblank, carryAll_singleton] at hafter
    rcases u.carry_warns (change word) with ⟨hadmitted, hquiet⟩ | ⟨hrefused, w, hwarned⟩
    · have hknown : s.rejects e = false := by
        rw [hadmits, hu] at hadmitted
        simpa using hadmitted
      refine ⟨[], ?_, ?_, ?_⟩
      · rw [hafter, hquiet, List.append_nil]
      · rw [hknown]
        rfl
      · rintro (h | h)
        · rw [hknown] at h
          cases h
        · exact absurd h hblank
    · have hrejects : s.rejects e = true := by
        rw [hadmits, hu] at hrefused
        simpa using hrefused
      refine ⟨[w], ?_, ?_, ?_⟩
      · rw [hafter, hwarned]
      · rw [if_pos ⟨hrejects, hblank⟩]
        rfl
      · rw [hafter, hwarned]
        exact fun _ => rfl

/-! ### Many edits -/

/-- Edits that stop at a fault have the effect of those in front of the one at fault. -/
theorem applyAll_of_fault {edits : List Edit} {err : EditError} (hall : s.applyAll edits = (s', some err)) :
    ∃ before e after, edits = before ++ e :: after ∧ s.applyAll before = (s', none) ∧ s'.apply e = .error err := by
  induction edits generalizing s with
  | nil => cases hall
  | cons e rest ih =>
      unfold applyAll at hall
      cases happly : s.apply e with
      | error err' =>
          rw [happly] at hall
          cases hall
          exact ⟨[], e, rest, rfl, rfl, happly⟩
      | ok u =>
          rw [happly] at hall
          obtain ⟨before, e', after, hedits, hbefore, hfault⟩ := ih hall
          refine ⟨e :: before, e', after, by rw [hedits]; rfl, ?_, hfault⟩
          rw [applyAll, happly]
          exact hbefore

/-- A refused edit changes the warnings and nothing else.  An edit of a kind that does not exist is an invalid argument
and does not even change those.  An edit without a flag expression leaves at most one warning, and changes nothing
where it leaves one.  An edit with a flag expression leaves one for each token that is no flag, and one more if the
number of its record is looked at and refused: it is looked at unless nothing is known of the expression.  So edits
that stop at a fault have exactly the effect of those in front of it. -/
theorem refused_edit_warns (s : Session) :
    (∀ kind rest, s.apply (.unknown kind) = .error (.unknownKind kind) ∧
      (EditError.unknownKind kind).fault.code = Code.invalidArgument ∧
      s.applyAll (.unknown kind :: rest) = (s, some (.unknownKind kind))) ∧
    (∀ e : Edit, (∀ kind, e ≠ .unknown kind) → ∃ s', s.apply e = .ok s' ∧
      (e.bits? = none → s'.warnings = s.warnings ∨ ∃ w, s' = { s with warnings := s.warnings ++ [w] }) ∧
      ∀ v id tokens word unknown, e.bits? = some (v, id, tokens) → FlagExpression.parse v tokens = (word, unknown) →
        ∃ refused : List Warning,
          s'.warnings = s.warnings ++ unknown.map (tokenWarning v e.entity id) ++ refused ∧
          refused.length = (if s.rejects e = true ∧ ¬ (word = 0 ∧ unknown ≠ []) then 1 else 0) ∧
          (s.rejects e = true ∨ (word = 0 ∧ unknown ≠ []) → s' = { s with warnings := s'.warnings })) ∧
    ∀ edits s' err, s.applyAll edits = (s', some err) →
      ∃ before e after, edits = before ++ e :: after ∧ s.applyAll before = (s', none) ∧ s'.apply e = .error err := by
  refine ⟨fun kind rest => ⟨rfl, rfl, rfl⟩, ?_, fun edits s' err hall => applyAll_of_fault hall⟩
  intro e he
  obtain ⟨s', happly⟩ := exists_apply he s
  refine ⟨s', happly, fun hplain => apply_of_plain hplain happly, ?_⟩
  exact fun v id tokens word unknown hbits hparse => apply_of_bits hbits hparse happly

/-- An expression with a flag and a token that is none, for a thing beyond the table, in front of an edit of a kind that
does not exist. -/
theorem refused_edit_warns_beyond :
    FlagExpression.parse .thing "SOLID+FOO" = (2, ["FOO"]) ∧
      ∃ s', (new 21).apply (.thingBits 999 "SOLID+FOO") = .ok s' ∧ s' = { new 21 with warnings := s'.warnings } ∧
        (∃ refused : List Warning, s'.warnings = [tokenWarning .thing "thing" 999 "FOO"] ++ refused ∧
          refused.length = 1) ∧
        ∃ before e after, [.thingBits 999 "SOLID+FOO", .unknown 14] = before ++ e :: after ∧
          (new 21).applyAll before = (s', none) ∧ s'.apply e = .error (.unknownKind 14) := by
  have hparse : FlagExpression.parse .thing "SOLID+FOO" = (2, ["FOO"]) := by decide
  have hrejects : (new 21).rejects (.thingBits 999 "SOLID+FOO") = true := by decide
  obtain ⟨-, hedit, hall⟩ := refused_edit_warns (new 21)
  obtain ⟨s', happly, -, hbits⟩ := hedit (.thingBits 999 "SOLID+FOO") (fun _ h => by cases h)
  obtain ⟨refused, hwarnings, hlength, honly⟩ := hbits .thing 999 "SOLID+FOO" 2 ["FOO"] rfl hparse
  have hstops : (new 21).applyAll [.thingBits 999 "SOLID+FOO", .unknown 14] = (s', some (.unknownKind 14)) := by
    rw [applyAll, happly]
    rfl
  refine ⟨hparse, s', happly, honly (.inl hrejects), ⟨refused, hwarnings, ?_⟩, hall _ _ _ hstops⟩
  rw [hlength, if_pos ⟨hrejects, by decide⟩]

/-- One token is no flag and the number is refused, but there is one warning and not two: the number of a record is not
looked at when nothing is known of the expression. -/
theorem unseen_number_not_warned :
    ∃ s', (new 21).apply (.thingBits 999 "FOO") = .ok s' ∧
      FlagExpression.parse .thing "FOO" = (0, ["FOO"]) ∧ (new 21).rejects (.thingBits 999 "FOO") = true ∧
      s'.warnings.length ≠ (new 21).warnings.length + ["FOO"].length + 1 := by
  refine ⟨_, rfl, ?_, ?_, ?_⟩ <;> decide

end Session
end DoomPatch
