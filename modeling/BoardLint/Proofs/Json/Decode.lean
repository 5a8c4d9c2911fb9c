import BoardLint.Findings
import BoardLint.Json.Decode

/-!
# What decoders give

A decoder of lists gives lists of what its items are, and a decoder of records keeps what each of
its fields keeps (`list_gives`, `record_gives`). So what is known of the values of a type in
reading is known of all that is read, at any depth.
-/

namespace BoardLint.Json

variable {α β σ : Type} {P : α → Prop} {I : σ → Prop}

/-- Every value that the decoder gives has the property. -/
def Decoder.Gives (value : Decoder α) (P : α → Prop) : Prop :=
  ∀ ⦃ts a left⦄, value ts = .ok (a, left) → P a

theorem natural_gives : natural.Gives (· ≤ maxNatural) := by
  intro ts n left h
  unfold natural at h
  split at h
  · split at h
    · next hle =>
      obtain ⟨rfl, -⟩ := Prod.mk.inj (Except.ok.inj h)
      exact hle
    · cases h
  · cases h

/-! ## Lists -/

theorem itemsFrom_gives {item : Decoder α} (hitem : item.Gives P) {first : Bool} {ts : Tokens}
    {as : List α} {left : Rest ts} (h : itemsFrom item first ts = .ok (as, left)) :
    ∀ a ∈ as, P a := by
  fun_induction itemsFrom item first ts generalizing as with
  | case1 =>
    obtain ⟨rfl, -⟩ := Prod.mk.inj (Except.ok.inj h)
    exact List.forall_mem_nil P
  | case2 => cases h
  | case3 => cases h
  | case4 _ _ _ _ _ ih | case5 _ _ _ ih =>
    obtain ⟨⟨a, left⟩, ha, h⟩ := bind_eq_ok_iff.1 h
    obtain ⟨⟨as, left'⟩, has, h⟩ := bind_eq_ok_iff.1 h
    obtain ⟨rfl, -⟩ := Prod.mk.inj (Except.ok.inj h)
    exact List.forall_mem_cons.2 ⟨hitem ha, ih left has⟩
  | case6 => cases h

theorem list_gives {item : Decoder α} (hitem : item.Gives P) :
    (list item).Gives fun as => ∀ a ∈ as, P a := by
  intro ts as left h
  unfold list at h
  split at h
  · obtain ⟨⟨as, left⟩, has, h⟩ := bind_eq_ok_iff.1 h
    obtain ⟨rfl, -⟩ := Prod.mk.inj (Except.ok.inj h)
    exact itemsFrom_gives hitem has
  · cases h

/-! ## Objects and records -/

theorem member_gives {value : Decoder α} {add : α → σ} (hvalue : value.Gives fun a => I (add a)) :
    (member value add).Gives I := by
  intro ts s left h
  obtain ⟨⟨⟨⟩, left⟩, -, h⟩ := bind_eq_ok_iff.1 h
  obtain ⟨⟨a, left'⟩, ha, h⟩ := bind_eq_ok_iff.1 h
  obtain ⟨rfl, -⟩ := Prod.mk.inj (Except.ok.inj h)
  exact hvalue ha

theorem membersFrom_gives {member : String → σ → Decoder σ}
    (hmember : ∀ k s, I s → (member k s).Gives I) {first : Bool} {s : σ} (hs : I s) {ts : Tokens}
    {result : σ × Nat} {left : Rest ts} (h : membersFrom member first s ts = .ok (result, left)) :
    I result.1 := by
  fun_induction membersFrom member first s ts generalizing result with
  | case1 =>
    obtain ⟨rfl, -⟩ := Prod.mk.inj (Except.ok.inj h)
    exact hs
  | case2 => cases h
  | case3 _ s _ _ _ ih | case4 s _ _ _ ih =>
    obtain ⟨⟨k, left⟩, -, h⟩ := bind_eq_ok_iff.1 h
    obtain ⟨⟨s', left'⟩, hs', h⟩ := bind_eq_ok_iff.1 h
    obtain ⟨⟨result, left''⟩, hresult, h⟩ := bind_eq_ok_iff.1 h
    obtain ⟨rfl, -⟩ := Prod.mk.inj (Except.ok.inj h)
    exact ih left s' left' (hmember k s hs hs') hresult
  | case5 => cases h

theorem object_gives {member : String → σ → Decoder σ}
    (hmember : ∀ k s, I s → (member k s).Gives I) {s : σ} (hs : I s) :
    (object member s).Gives fun result => I result.1 := by
  intro ts result left h
  unfold object at h
  split at h
  · obtain ⟨⟨result, left⟩, hresult, h⟩ := bind_eq_ok_iff.1 h
    obtain ⟨rfl, -⟩ := Prod.mk.inj (Except.ok.inj h)
    exact membersFrom_gives hmember hs hresult
  · cases h

section Record

variable {fields : List (RecordField σ)}

theorem recordMember_gives (hfields : ∀ field ∈ fields, ∀ s, I s → (field.read s).Gives I)
    (name : String) (s : σ) (hs : I s) : (recordMember fields name s).Gives I := by
  intro ts s' left h
  unfold recordMember at h
  split at h
  · exact member_gives (fun _ _ _ _ => hs) h
  · next field hfield =>
    split at h
    · cases h
    · obtain ⟨⟨⟨⟩, left⟩, -, h⟩ := bind_eq_ok_iff.1 h
      obtain ⟨⟨s', left'⟩, hs', h⟩ := bind_eq_ok_iff.1 h
      obtain ⟨rfl, -⟩ := Prod.mk.inj (Except.ok.inj h)
      exact hfields field (List.mem_of_find?_eq_some hfield) s hs hs'

theorem recordItems_gives (hfields : ∀ field ∈ fields, ∀ s, I s → (field.read s).Gives I)
    {first : Bool} {s : σ} (hs : I s) :
    (recordItems first s fields).Gives fun result => I result.1 := by
  intro ts result left h
  fun_induction recordItems first s fields ts generalizing result with
  | case1 =>
    obtain ⟨rfl, -⟩ := Prod.mk.inj (Except.ok.inj h)
    exact hs
  | case2 => cases h
  | case3 => cases h
  | case4 => cases h
  | case5 => cases h
  | case6 _ s _ _ _ _ _ _ ih | case7 s _ _ _ _ _ ih =>
    obtain ⟨hfield, hfields⟩ := List.forall_mem_cons.1 hfields
    obtain ⟨⟨s', left⟩, hs', h⟩ := bind_eq_ok_iff.1 h
    obtain ⟨⟨result, left'⟩, hresult, h⟩ := bind_eq_ok_iff.1 h
    obtain ⟨rfl, -⟩ := Prod.mk.inj (Except.ok.inj h)
    exact ih s' left hfields (hfield s hs hs') hresult
  | case8 => cases h

theorem record_gives (hfields : ∀ field ∈ fields, ∀ s, I s → (field.read s).Gives I)
    (what : String) {s : σ} (hs : I s) : (record what fields s).Gives fun result => I result.1 := by
  intro ts result left h
  unfold record at h
  split at h
  · obtain ⟨⟨result, left⟩, hresult, h⟩ := bind_eq_ok_iff.1 h
    obtain ⟨rfl, -⟩ := Prod.mk.inj (Except.ok.inj h)
    exact recordItems_gives hfields hs hresult
  · exact object_gives (recordMember_gives hfields) hs h
  · cases h

end Record

/-- The value of a whole text is one that its decoder gives. -/
theorem of_decode {value : Decoder α} (hvalue : value.Gives P) {text : String} {a : α}
    (h : decode value text = .ok a) : P a := by
  obtain ⟨⟨a, rest⟩, ha, h⟩ := bind_eq_ok_iff.1 h
  dsimp only at h
  split at h
  · obtain rfl := Except.ok.inj h
    exact hvalue ha
  · cases h

end BoardLint.Json
