import BoardLint.Proofs.Symbols.Calls
import Mathlib.Logic.Relation

/-!
# Aliases and kept values

`Symbols.resolve` follows the values that defines have kept, each found in the table as it was
when the define was made. The plain walk goes from the name of a define to the value that is
written for it, in the table as it is now: `Alias` is its step, `EndsIn` and `Loops` say how it may
go on.

The invariant is `Faithful`: a kept value lies on the plain walk of its define, and a define has
kept none only where that walk meets no value that could be the answer (`Barren`). New entries
lengthen plain walks but never turn them, so the invariant lasts; what follows for every run of the
table is `resolve_agrees_with_plain_walk`.
-/

namespace BoardLint.Symbols

open Relation (ReflTransGen TransGen)

variable {t t' : Table Define} {u v w : Option Value}

/-! ## The plain walk -/

/-- One step: from the name of a define to the value that is written for it. -/
inductive Alias (t : Table Define) : Option Value → Option Value → Prop
  | name {name : String} {d : Define} (h : t.get? name = some d) :
      Alias t (some (.text name)) d.value

/-- Here no step follows: there is no value, or an integer, or a text that names no define. -/
inductive Final (t : Table Define) : Option Value → Prop
  | none : Final t none
  | int (n : Int) : Final t (some (.int n))
  | text {name : String} (h : t.get? name = none) : Final t (some (.text name))

/-- The walk from `v` ends, and in `r`. -/
def EndsIn (t : Table Define) (v r : Option Value) : Prop :=
  ReflTransGen (Alias t) v r ∧ Final t r

/-- The walk from `v` comes back to a name that it has passed. -/
def Loops (t : Table Define) (v : Option Value) : Prop :=
  ∃ name, ReflTransGen (Alias t) v (some (.text name)) ∧
    TransGen (Alias t) (some (.text name)) (some (.text name))

theorem Alias.eq (h : Alias t u v) (h' : Alias t u w) : v = w := by
  obtain @⟨name, d, h⟩ := h
  obtain @⟨_, d', h'⟩ := h'
  obtain rfl : d = d' := Option.some.inj (h.symm.trans h')
  rfl

theorem Final.not_alias (h : Final t v) : ¬ Alias t v w := by
  rintro @⟨name, d, hd⟩
  cases h with
  | text h => cases h.symm.trans hd

theorem final_or_alias (t : Table Define) (v : Option Value) :
    Final t v ∨ ∃ w, Alias t v w := by
  rcases v with _ | n | name
  · exact .inl .none
  · exact .inl (.int n)
  · cases h : t.get? name with
    | none => exact .inl (.text h)
    | some d => exact .inr ⟨d.value, .name h⟩

/-- Two walks from one value: one of them is the start of the other. -/
theorem walk_total (h : ReflTransGen (Alias t) u v) (h' : ReflTransGen (Alias t) u w) :
    ReflTransGen (Alias t) v w ∨ ReflTransGen (Alias t) w v :=
  ReflTransGen.total_of_right_unique (fun _ _ _ h h' => h.eq h') h h'

theorem Final.eq_of_walk (h : Final t v) (hw : ReflTransGen (Alias t) v w) : w = v := by
  rcases hw.cases_head with rfl | ⟨x, hx, -⟩
  · rfl
  · exact absurd hx h.not_alias

theorem EndsIn.unique (h : EndsIn t u v) (h' : EndsIn t u w) : v = w := by
  rcases walk_total h.1 h'.1 with hw | hw
  · exact (h.2.eq_of_walk hw).symm
  · exact h'.2.eq_of_walk hw

/-- A walk that starts on a loop stays on it. -/
theorem loop_of_walk (h : TransGen (Alias t) v v) (hw : ReflTransGen (Alias t) v w) :
    TransGen (Alias t) w w := by
  induction hw with
  | refl => exact h
  | tail _ hs ih =>
    obtain ⟨x, hx, hback⟩ := TransGen.head'_iff.1 ih
    obtain rfl := hs.eq hx
    exact .tail' hback hs

/-- A walk that comes back to a name meets no end. -/
theorem Loops.not_final (h : Loops t v) (hw : ReflTransGen (Alias t) v w) : ¬ Final t w := by
  obtain ⟨name, hname, hloop⟩ := h
  intro hf
  rcases walk_total hname hw with hw' | hw'
  · obtain ⟨x, hx, -⟩ := TransGen.head'_iff.1 (loop_of_walk hloop hw')
    exact hf.not_alias hx
  · rw [hf.eq_of_walk hw'] at hloop
    obtain ⟨x, hx, -⟩ := TransGen.head'_iff.1 hloop
    exact hf.not_alias hx

/-! ## Walks without an answer -/

/-- Every value on the walk names a define: it ends in no value, or not at all. -/
def Barren (t : Table Define) (v : Option Value) : Prop :=
  ∀ a, ReflTransGen (Alias t) v (some a) → ¬ Final t (some a)

theorem Loops.barren (h : Loops t v) : Barren t v := fun _ hw => h.not_final hw

theorem barren_none (t : Table Define) : Barren t none := by
  intro a hw
  cases Final.none.eq_of_walk hw

/-- What is barren further on is barren from the start. -/
theorem Barren.of_walk (h : Barren t w) (hw : ReflTransGen (Alias t) v w) : Barren t v := by
  intro a ha hf
  rcases walk_total hw ha with h' | h'
  · exact h a h' hf
  · obtain rfl := hf.eq_of_walk h'
    exact h a .refl hf

/-! ## More entries -/

/-- Every entry of `t` is found in `t'` too. -/
def Extends (t t' : Table Define) : Prop := ∀ name d, t.get? name = some d → t'.get? name = some d

theorem extends_insert (t : Table Define) (d : Define) : Extends t (t.insert d) := by
  intro name e h
  rw [Table.get?_insert, h, Option.some_or]

/-- What holds of all entries and of a new one holds of all entries with the new one. -/
theorem of_get?_insert {P : Define → Prop} {d : Define}
    (h : ∀ name e, t.get? name = some e → P e) (hd : P d) :
    ∀ name e, (t.insert d).get? name = some e → P e := by
  intro name e he
  rw [Table.get?_insert] at he
  cases hg : t.get? name with
  | some e' =>
    rw [hg, Option.some_or, Option.some.injEq] at he
    exact he ▸ h name e' hg
  | none =>
    rw [hg, Option.none_or] at he
    split at he
    · exact Option.some.inj he ▸ hd
    · cases he

theorem Alias.mono (ht : Extends t t') (h : Alias t v w) : Alias t' v w := by
  obtain @⟨name, d, h⟩ := h
  exact .name (ht name d h)

theorem walk_mono (ht : Extends t t') (h : ReflTransGen (Alias t) v w) :
    ReflTransGen (Alias t') v w := ReflTransGen.mono (fun _ _ => Alias.mono ht) _ _ h

/-- A walk on which every value names a define is the same walk behind more entries. -/
theorem Barren.mono (ht : Extends t t') (h : Barren t v) : Barren t' v := by
  -- a barren walk of the longer table never leaves the shorter one
  have back : ∀ w, ReflTransGen (Alias t') v w → ReflTransGen (Alias t) v w := by
    intro w hw
    induction hw with
    | refl => exact .refl
    | @tail x y _ hs ih =>
      obtain @⟨name, d, hd⟩ := hs
      obtain hf | ⟨z, hz⟩ := final_or_alias t (some (.text name))
      · exact absurd hf (h _ ih)
      · rw [(Alias.name hd).eq (hz.mono ht)]
        exact ih.tail hz
  intro a hw hf
  obtain hf' | ⟨z, hz⟩ := final_or_alias t (some a)
  · exact h a (back _ hw) hf'
  · exact hf.not_alias (hz.mono ht)

/-! ## Kept values -/

/-- What a define has kept agrees with the plain walk from its written value. -/
structure Faithful (t : Table Define) (d : Define) : Prop where
  /-- A kept value lies on the walk. -/
  walk : ∀ a, d.resolved = some a → ReflTransGen (Alias t) d.value (some a)
  /-- Where none is kept, the walk has no answer. -/
  barren : d.resolved = none → Barren t d.value

theorem Faithful.mono {d : Define} (ht : Extends t t') (h : Faithful t d) : Faithful t' d :=
  ⟨fun a ha => walk_mono ht (h.walk a ha), fun hn => (h.barren hn).mono ht⟩

/-- Every entry is faithful. -/
def AllFaithful (t : Table Define) : Prop := ∀ name d, t.get? name = some d → Faithful t d

theorem AllFaithful.insert {d : Define} (h : AllFaithful t) (hd : Faithful t d) :
    AllFaithful (t.insert d) :=
  of_get?_insert (fun name e he => (h name e he).mono (extends_insert t d))
    (hd.mono (extends_insert t d))

/-! ## Following kept values -/

theorem final_of_not_text (h : ∀ name, v = some (.text name) → False) : Final t v := by
  rcases v with _ | n | name
  · exact .none
  · exact .int n
  · exact (h name rfl).elim

/-- From the name of a define the plain walk reaches what the define has kept. -/
theorem walk_kept {name : String} {d : Define} {a : Value} (ht : AllFaithful t)
    (hd : t.get? name = some d) (ha : d.resolved = some a) :
    TransGen (Alias t) (some (.text name)) (some a) :=
  .head' (.name hd) ((ht name d hd).walk a ha)

theorem endsIn_of_follow (ht : AllFaithful t) {chain : List String} {a : Value}
    (h : follow t chain v = .ok (some a)) : EndsIn t v (some a) := by
  fun_induction follow t chain v with
  | case1 chain name hn =>
    exact ⟨Except.ok.inj h ▸ .refl, Except.ok.inj h ▸ .text hn⟩
  | case2 => cases h
  | case3 chain name d hd _ ih =>
    obtain ⟨hw, hf⟩ := ih h
    cases hr : d.resolved with
    | none =>
      rw [hr] at hw
      cases Final.none.eq_of_walk hw
    | some b =>
      rw [hr] at hw
      exact ⟨(walk_kept ht hd hr).to_reflTransGen.trans hw, hf⟩
  | case4 chain v hv =>
    exact ⟨Except.ok.inj h ▸ .refl, Except.ok.inj h ▸ final_of_not_text hv⟩

theorem barren_of_follow (ht : AllFaithful t) {chain : List String}
    (h : follow t chain v = .ok none) : Barren t v := by
  fun_induction follow t chain v with
  | case1 => cases h
  | case2 => cases h
  | case3 chain name d hd _ ih =>
    cases hr : d.resolved with
    | none => exact ((ht name d hd).barren hr).of_walk (.single (.name hd))
    | some b => exact (hr ▸ ih h).of_walk (walk_kept ht hd hr).to_reflTransGen
  | case4 chain v hv => exact Except.ok.inj h ▸ barren_none t

/-- The chain holds names from which the plain walk reaches the value at hand, so that a name
found in it is one that the walk comes back to. -/
theorem loops_of_follow (ht : AllFaithful t) {chain names : List String}
    (hc : ∀ name ∈ chain, TransGen (Alias t) (some (.text name)) v)
    (h : follow t chain v = .error names) : Loops t v := by
  fun_induction follow t chain v with
  | case1 => cases h
  | case2 chain name d hd hn => exact ⟨name, .refl, hc name hn⟩
  | case3 chain name d hd _ ih =>
    cases hr : d.resolved with
    | none =>
      rw [hr, follow_none] at h
      cases h
    | some b =>
      have hstep := walk_kept ht hd hr
      have hc' : ∀ n ∈ chain ++ [name], TransGen (Alias t) (some (.text n)) d.resolved := by
        intro n hn
        rw [hr]
        rcases List.mem_append.1 hn with hn | hn
        · exact (hc n hn).trans hstep
        · rw [List.mem_singleton.1 hn]
          exact hstep
      obtain ⟨m, hm, hloop⟩ := ih hc' h
      rw [hr] at hm
      exact ⟨m, hstep.to_reflTransGen.trans hm, hloop⟩
  | case4 => cases h

/-! ## The invariant of a run -/

theorem faithful_entry {s : Symbols} (hs : AllFaithful s.defines) (name : String)
    (raw : Option String) (l : Location) : Faithful s.defines (s.entry name raw l) := by
  cases hr : s.resolve (raw.map Value.ofString) with
  | ok r =>
    have he : (s.entry name raw l).resolved = r := by
      simp only [entry, kept, hr]
    refine ⟨fun a ha => ?_, fun hn => ?_⟩
    · obtain rfl := he.symm.trans ha
      exact (endsIn_of_follow hs hr).1
    · obtain rfl := he.symm.trans hn
      exact barren_of_follow hs hr
  | error chain =>
    have he : (s.entry name raw l).resolved = none := by
      simp only [entry, kept, hr]
    refine ⟨fun a ha => ?_, fun _ => ?_⟩
    · cases he.symm.trans ha
    · exact (loops_of_follow hs (by simp) hr).barren

theorem faithful_synthetic (t : Table Define) (name : String) (a : Value) (l : Location) :
    Faithful t ⟨name, some a, some a, l⟩ :=
  ⟨fun _ hb => hb ▸ .refl, fun hn => absurd hn (Option.some_ne_none a)⟩

/-- Every call keeps the invariant. -/
theorem allFaithful_apply (s : Symbols) (c : Call) (hs : AllFaithful s.defines) :
    AllFaithful (s.apply c).defines := by
  cases c with
  | define name raw l =>
    rw [apply, define_fst]
    exact hs.insert (faithful_entry hs name raw l)
  | synthetic name a l => exact hs.insert (faithful_synthetic s.defines name a l)
  | bind kind name raw l =>
    rw [apply, bind_fst, defines_insertSetting]
    exact hs

theorem allFaithful_after (calls : List Call) : AllFaithful (after calls).defines :=
  after_induction (P := fun s => AllFaithful s.defines)
    (fun _ _ h => absurd h.symm (Option.some_ne_none _)) allFaithful_apply calls

/-- Behind any calls, what kept values lead to is what the plain walk ends in; where the plain walk
comes back to a name, they lead to no value or to a circle. -/
theorem resolve_agrees_with_plain_walk (calls : List Call) (a : Value) :
    (∀ r, EndsIn (after calls).defines (some a) r →
        (after calls).resolve (some a) = .ok r) ∧
      (Loops (after calls).defines (some a) →
        (∃ chain, (after calls).resolve (some a) = .error chain) ∨
          (after calls).resolve (some a) = .ok none) := by
  have ht := allFaithful_after calls
  cases h : (after calls).resolve (some a) with
  | error chain =>
    have hl := loops_of_follow ht (by simp) h
    exact ⟨fun r hr => absurd hr.2 (hl.not_final hr.1), fun _ => .inl ⟨chain, rfl⟩⟩
  | ok r' =>
    cases r' with
    | none =>
      refine ⟨fun r hr => ?_, fun _ => .inr rfl⟩
      cases r with
      | none => rfl
      | some b => exact absurd hr.2 (barren_of_follow ht h b hr.1)
    | some b =>
      have hb := endsIn_of_follow ht h
      exact ⟨fun r hr => by rw [hb.unique hr], fun hl => absurd hb.2 (hl.not_final hb.1)⟩

/-- An alias written before the define that it names, and two defines that name each other. -/
def entangled : List Call :=
  [.define "A" (some "B") default, .define "B" (some "7") default,
    .define "C" (some "D") default, .define "D" (some "C") default]

theorem resolve_agrees_on_entangled :
    (EndsIn (after entangled).defines (some (.text "A")) (some (.int 7)) ∧
        (after entangled).resolve (some (.text "A")) = .ok (some (.int 7))) ∧
      Loops (after entangled).defines (some (.text "C")) ∧
        ((∃ chain, (after entangled).resolve (some (.text "C")) = .error chain) ∨
          (after entangled).resolve (some (.text "C")) = .ok none) := by
  have hstep : ∀ name a, ((after entangled).lookup name).map Define.value = some (some a) →
      Alias (after entangled).defines (some (.text name)) (some a) := by
    intro name a h
    obtain ⟨d, hd, ha⟩ := Option.map_eq_some_iff.1 h
    exact ha ▸ .name hd
  have hend : EndsIn (after entangled).defines (some (.text "A")) (some (.int 7)) :=
    ⟨.head (hstep "A" (.text "B") (by decide +kernel))
      (.single (hstep "B" (.int 7) (by decide +kernel))), .int 7⟩
  have hloop : Loops (after entangled).defines (some (.text "C")) :=
    ⟨"C", .refl, .head' (hstep "C" (.text "D") (by decide +kernel))
      (.single (hstep "D" (.text "C") (by decide +kernel)))⟩
  exact ⟨⟨hend, (resolve_agrees_with_plain_walk entangled (.text "A")).1 _ hend⟩, hloop,
    (resolve_agrees_with_plain_walk entangled (.text "C")).2 hloop⟩

end BoardLint.Symbols
