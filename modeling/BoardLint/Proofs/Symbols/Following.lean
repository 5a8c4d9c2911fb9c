import BoardLint.Proofs.Symbols.Alias
import Mathlib.Data.List.Chain
import Mathlib.Data.List.Nodup

/-!
# Following kept values

`Symbols.resolve` goes from the name of a define to the value that the define has kept, and on from
there. Nothing is asked of the table here: kept values may form circles in any way. Still no name is
passed twice before the walk stops, so that as many rounds as there are defines and one more are
enough (`followWithin_eq`).

What has been passed up to some round is described by `Passed`, which is kept by each round. From it
follows what the chain of an error looks like (`ComesRound`). A walk that ends in a value has come
to one that does not go on (`resolve_ends`).
-/

namespace BoardLint.Symbols

variable {t : Table Define} {v now : Option Value} {chain : List String} {name : String}
  {d : Define}

/-! ## Rounds -/

/-- Follows a value for some rounds, each of which looks up one name, and gives up after them. -/
def followWithin (t : Table Define) :
    Nat → List String → Option Value → Option (Except (List String) (Option Value))
  | 0, _, some (.text _) => none
  | rounds + 1, chain, some (.text name) =>
    match t.get? name with
    | none => some (.ok (some (.text name)))
    | some d =>
      if name ∈ chain then some (.error (chain ++ [name]))
      else followWithin t rounds (chain ++ [name]) d.resolved
  | _, _, value => some (.ok value)

@[simp] theorem followWithin_none (t : Table Define) (rounds : Nat) (chain : List String) :
    followWithin t rounds chain none = some (.ok none) := by
  cases rounds <;> rfl

@[simp] theorem followWithin_int (t : Table Define) (rounds : Nat) (chain : List String) (n : Int) :
    followWithin t rounds chain (some (.int n)) = some (.ok (some (.int n))) := by
  cases rounds <;> rfl

/-- Each round passes a name that has not been passed before, so it is enough to have one round
more than there are such names. -/
theorem followWithin_eq {rounds : Nat} (h : remaining t.names chain < rounds) :
    followWithin t rounds chain v = some (follow t chain v) := by
  induction rounds generalizing chain v with
  | zero => exact absurd h (Nat.not_lt_zero _)
  | succ rounds ih =>
    rcases v with _ | n | name
    · simp
    · simp
    · rw [followWithin]
      cases hd : t.get? name with
      | none => rw [follow_of_unknown hd]
      | some d =>
        dsimp only
        by_cases hn : name ∈ chain
        · rw [if_pos hn, follow_of_passed hd hn]
        · have hfewer := remaining_append_lt (Table.mem_names_of_get? hd) hn
          rw [if_neg hn, follow_of_new hd hn, ih (by omega)]

theorem remaining_nil (l : List String) : remaining l [] = l.length := by
  simp [remaining]

/-! ## Names that have been passed -/

/-- The define of the one name has kept the other. -/
def Keeps (t : Table Define) (name next : String) : Prop :=
  ∃ d, t.get? name = some d ∧ d.resolved = some (.text next)

/-- The names that have been passed on the way from `v` to the value at hand. -/
structure Passed (t : Table Define) (v : Option Value) (chain : List String) (now : Option Value) :
    Prop where
  defined : ∀ name ∈ chain, name ∈ t.names
  distinct : chain.Nodup
  linked : chain.IsChain (Keeps t)
  /-- The first name is the value at the start, which is still at hand if no name has been
  passed. -/
  first : (chain.head?.map Value.text).or now = v
  /-- The value at hand has been kept by the last name. -/
  last : ∀ name ∈ chain.getLast?, ∃ d, t.get? name = some d ∧ d.resolved = now

/-- A chain that starts with the text of `v`, goes from each name to the one that its define has
kept, and ends at the first name that comes up again. -/
structure ComesRound (t : Table Define) (v : Value) (chain : List String) : Prop where
  defined : ∀ name ∈ chain, name ∈ t.names
  first : chain.head?.map Value.text = some v
  linked : chain.IsChain (Keeps t)
  distinct : chain.dropLast.Nodup
  again : ∃ name ∈ chain.dropLast, chain.getLast? = some name

theorem passed_nil (t : Table Define) (v : Option Value) : Passed t v [] v where
  defined _ h := absurd h List.not_mem_nil
  distinct := .nil
  linked := .nil
  first := rfl
  last _ h := absurd h nofun

namespace Passed

theorem linked_concat (h : Passed t v chain (some (.text name))) :
    (chain ++ [name]).IsChain (Keeps t) := by
  refine List.isChain_append.2 ⟨h.linked, List.isChain_singleton name,
    fun last hlast next hnext => ?_⟩
  obtain rfl : name = next := Option.some.inj hnext
  exact h.last last hlast

theorem first_concat (h : Passed t v chain (some (.text name))) :
    (chain ++ [name]).head?.map Value.text = v := by
  rw [← h.first]
  cases chain <;> rfl

theorem defined_concat (h : Passed t v chain now) (hd : t.get? name = some d) :
    ∀ n ∈ chain ++ [name], n ∈ t.names := by
  refine List.forall_mem_append.2 ⟨h.defined, fun n hn => ?_⟩
  rw [List.mem_singleton.1 hn]
  exact Table.mem_names_of_get? hd

/-- One round: the name is new. -/
theorem next (h : Passed t v chain (some (.text name))) (hd : t.get? name = some d)
    (hn : name ∉ chain) : Passed t v (chain ++ [name]) d.resolved where
  defined := h.defined_concat hd
  distinct := List.nodup_append.2 ⟨h.distinct, List.nodup_singleton name, fun a ha b hb => by
    rw [List.mem_singleton.1 hb]
    exact fun heq => hn (heq ▸ ha)⟩
  linked := h.linked_concat
  first := by
    rw [h.first_concat, ← h.first_concat]
    cases chain <;> rfl
  last n hlast := by
    rw [List.getLast?_concat] at hlast
    obtain rfl := Option.some.inj hlast
    exact ⟨d, hd, rfl⟩

/-- One round: the name has been passed before. -/
theorem comesRound {v : Value} (h : Passed t (some v) chain (some (.text name)))
    (hd : t.get? name = some d) (hn : name ∈ chain) : ComesRound t v (chain ++ [name]) where
  defined := h.defined_concat hd
  first := h.first_concat
  linked := h.linked_concat
  distinct := by
    rw [List.dropLast_concat]
    exact h.distinct
  again := ⟨name, by rwa [List.dropLast_concat], List.getLast?_concat⟩

end Passed

/-! ## All rounds -/

/-- The chain of an error comes round. -/
theorem comesRound_of_follow {v : Value} {names : List String} (hp : Passed t (some v) chain now)
    (h : follow t chain now = .error names) : ComesRound t v names := by
  fun_induction follow t chain now with
  | case1 => cases h
  | case2 chain name d hd hn => exact Except.error.inj h ▸ hp.comesRound hd hn
  | case3 chain name d hd hn ih => exact ih (hp.next hd hn) h
  | case4 => cases h

/-- A walk ends where it does not go on. -/
theorem final_of_follow {r : Option Value} (h : follow t chain v = .ok r) : Final t r := by
  fun_induction follow t chain v with
  | case1 chain name hn => exact Except.ok.inj h ▸ .text hn
  | case2 => cases h
  | case3 chain name d hd hn ih => exact ih h
  | case4 chain v hv => exact Except.ok.inj h ▸ final_of_not_text hv

theorem Final.follow_eq (h : Final t v) (chain : List String) : follow t chain v = .ok v := by
  cases h with
  | none => exact follow_none t chain
  | int n => exact follow_int t chain n
  | text h => exact follow_of_unknown h chain

/-- In every table, whatever values its defines have kept, a value can be followed in as many rounds
as there are defines and one more. If this fails, the chain comes round; if it ends in a value, this
is an integer or a text that names no define, and leads to itself. -/
theorem resolve_ends (s : Symbols) (v : Value) :
    followWithin s.defines (s.defines.size + 1) [] (some v) = some (s.resolve (some v)) ∧
    (∀ chain, s.resolve (some v) = .error chain → ComesRound s.defines v chain) ∧
    (∀ w, s.resolve (some v) = .ok (some w) →
      ((∃ n, w = .int n) ∨ ∃ name, w = .text name ∧ s.lookup name = none) ∧
        s.resolve (some w) = .ok (some w)) := by
  refine ⟨followWithin_eq ?_, fun chain h => comesRound_of_follow (passed_nil _ _) h, ?_⟩
  · rw [remaining_nil, Table.Raw.names, List.length_map]
    exact Nat.lt_succ_self _
  · intro w h
    have hfinal : Final s.defines (some w) := final_of_follow h
    refine ⟨?_, hfinal.follow_eq []⟩
    cases hfinal with
    | int n => exact .inl ⟨n, rfl⟩
    | text hunknown => exact .inr ⟨_, rfl, hunknown⟩

/-- Defines of which one leads into a circle of two others, and a fourth to an unknown name. -/
def lasso : Symbols where
  defines := .ofEntries [⟨"A", none, some (.text "B"), default⟩,
    ⟨"B", none, some (.text "C"), default⟩, ⟨"C", none, some (.text "B"), default⟩,
    ⟨"D", none, some (.text "X"), default⟩]

theorem resolve_ends_in_lasso :
    (lasso.resolve (some (.text "A")) = .error ["A", "B", "C", "B"] ∧
      ComesRound lasso.defines (.text "A") ["A", "B", "C", "B"]) ∧
    lasso.resolve (some (.text "D")) = .ok (some (.text "X")) ∧
      lasso.resolve (some (.text "X")) = .ok (some (.text "X")) := by
  obtain ⟨hrounds, hcircle, -⟩ := resolve_ends lasso (.text "A")
  obtain ⟨hrounds', -, hend⟩ := resolve_ends lasso (.text "D")
  have herror : lasso.resolve (some (.text "A")) = .error ["A", "B", "C", "B"] :=
    (Option.some.inj hrounds).symm
  have hok : lasso.resolve (some (.text "D")) = .ok (some (.text "X")) :=
    (Option.some.inj hrounds').symm
  exact ⟨⟨herror, hcircle _ herror⟩, hok, (hend _ hok).2⟩

end BoardLint.Symbols
