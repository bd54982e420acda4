import ModbusRpc.Proofs.Payload.Base64Texts
import ModbusRpc.Rpc.Params

/-! # Parameters that pass

Which values of a parameter pass each check, by what the parameters have at its key. A unit is zero
unless one is given; nothing else has a default.
-/

namespace ModbusRpc

namespace Params

variable {ps : Params} {key : Text} {n : Int} {payload : List UInt8}

def HasWord (ps : Params) (key : Text) (n : Int) : Prop :=
  Members.get? ps key = some (.int n) ∧ 0 ≤ n ∧ n ≤ 65535

def HasQuantity (ps : Params) (greatest n : Int) : Prop :=
  Members.get? ps "quantity" = some (.int n) ∧ 1 ≤ n ∧ n ≤ greatest

/-- A unit is given, or it is zero and none is. -/
def HasUnit (ps : Params) (n : Int) : Prop :=
  (Members.get? ps "slave_id" = some (.int n) ∧ 0 ≤ n ∧ n ≤ 255) ∨
    ((Members.get? ps "slave_id" = none ∨ Members.get? ps "slave_id" = some .null) ∧ n = 0)

def HasBytes (ps : Params) (key : Text) (payload : List UInt8) : Prop :=
  ∃ t, Members.get? ps key = some (.text t) ∧ Base64.Means t payload

/-- A value is given at a key; a null is none. -/
def Gives (ps : Params) (key : Text) (v : Json) : Prop := Members.get? ps key = some v ∧ v ≠ .null

def Lacks (ps : Params) (key : Text) : Prop := ∀ v, ¬ ps.Gives key v

theorem gives_iff {v : Json} : ps.Gives key v ↔ ps.given? key = some v := by
  unfold Gives given?
  split
  case h_1 h =>
    rw [h]
    refine ⟨?_, nofun⟩
    rintro ⟨⟨⟩, hn⟩
    exact absurd rfl hn
  case h_2 h =>
    refine ⟨And.left, fun hv => ⟨hv, ?_⟩⟩
    rintro rfl
    exact h hv

theorem Gives.unique {v w : Json} (h : ps.Gives key v) (h' : ps.Gives key w) : v = w :=
  Option.some.inj (h.1.symm.trans h'.1)

theorem lacks_iff : ps.Lacks key ↔ ps.given? key = none := by
  simp only [Lacks, gives_iff, Option.eq_none_iff_forall_not_mem, Option.mem_def]

theorem integer_eq_ok_iff {default? : Option Int} : ps.integer key default? = .ok n ↔
    (Members.get? ps key = some (.int n) ∧ IsInt64 n) ∨
      ((Members.get? ps key = none ∨ Members.get? ps key = some .null) ∧ default? = some n) := by
  unfold integer given?
  match h : Members.get? ps key with
  | none | some .null => cases default? <;> simp
  | some (.int k) =>
    simp only [ite_eq_ok_iff]
    constructor
    · rintro ⟨hk, hn⟩
      cases hn
      exact .inl ⟨rfl, hk⟩
    · rintro (⟨hn, hk⟩ | ⟨hn | hn, _⟩) <;> cases hn
      exact ⟨hk, rfl⟩
  | some (.bool _) | some (.float _) | some (.text _) | some (.array _) | some (.object _) => simp

theorem word_eq_ok_iff : ps.word key none = .ok n ↔ ps.HasWord key n := by
  unfold word HasWord
  rw [bind_eq_ok_iff]
  constructor
  · rintro ⟨k, hk, hn⟩
    obtain ⟨hb, hn⟩ := ite_eq_ok_iff.mp hn
    cases hn
    rcases integer_eq_ok_iff.mp hk with ⟨hg, _⟩ | ⟨_, hd⟩
    · exact ⟨hg, hb⟩
    · cases hd
  · rintro ⟨hg, hb⟩
    have hi : IsInt64 n := by
      unfold IsInt64
      omega
    exact ⟨n, integer_eq_ok_iff.mpr (.inl ⟨hg, hi⟩), if_pos hb⟩

theorem hasQuantity_iff {greatest : Int} (hg : greatest ≤ 65535) :
    ps.HasQuantity greatest n ↔ ps.HasWord "quantity" n ∧ 1 ≤ n ∧ n ≤ greatest := by
  constructor
  · rintro ⟨h, h₁, h₂⟩
    exact ⟨⟨h, by omega, by omega⟩, h₁, h₂⟩
  · rintro ⟨⟨h, _, _⟩, hb⟩
    exact ⟨h, hb⟩

theorem unit_eq_ok_iff : ps.unit = .ok n ↔ ps.HasUnit n := by
  unfold unit HasUnit
  rw [bind_eq_ok_iff]
  constructor
  · rintro ⟨k, hk, hn⟩
    obtain ⟨hb, hn⟩ := ite_eq_ok_iff.mp hn
    cases hn
    rcases integer_eq_ok_iff.mp hk with ⟨hg, _⟩ | ⟨hg, hd⟩
    · exact .inl ⟨hg, hb⟩
    · exact .inr ⟨hg, (Option.some.inj hd).symm⟩
  · rintro (⟨hg, hb⟩ | ⟨hg, rfl⟩)
    · have hi : IsInt64 n := by
        unfold IsInt64
        omega
      exact ⟨n, integer_eq_ok_iff.mpr (.inl ⟨hg, hi⟩), if_pos hb⟩
    · exact ⟨0, integer_eq_ok_iff.mpr (.inr ⟨hg, rfl⟩), rfl⟩

theorem addressAnd_eq_ok_iff {address : Int} : addressAnd key ps = .ok (address, n) ↔
    ps.HasWord "address" address ∧ ps.HasWord key n := by
  simp only [addressAnd, bind_eq_ok_iff, word_eq_ok_iff]
  constructor
  · rintro ⟨a, ha, k, hk, he⟩
    cases he
    exact ⟨ha, hk⟩
  · rintro ⟨ha, hn⟩
    exact ⟨address, ha, n, hn, rfl⟩

theorem bytes_eq_ok_iff : ps.bytes key = .ok payload ↔ ps.HasBytes key payload := by
  simp only [bytes, given?, HasBytes, Base64.means_iff]
  match h : Members.get? ps key with
  | some (.text t) => simp [mapError_eq_ok_iff]
  | none | some .null | some (.bool _) | some (.int _) | some (.float _) | some (.array _)
  | some (.object _) => simp

theorem HasWord.gives (h : ps.HasWord key n) : ps.Gives key (.int n) := ⟨h.1, nofun⟩

theorem HasBytes.exists_gives (h : ps.HasBytes key payload) :
    ∃ t, ps.Gives key (.text t) ∧ Base64.Means t payload := by
  obtain ⟨t, ht, hm⟩ := h
  exact ⟨t, ⟨ht, nofun⟩, hm⟩

theorem gives_of_integer {default? : Option Int} (h : ps.integer key default? = .ok n) :
    ps.Gives key (.int n) ∨ ps.Lacks key ∧ default? = some n := by
  rcases integer_eq_ok_iff.mp h with ⟨hg, _⟩ | ⟨hg, hd⟩
  · exact .inl ⟨hg, nofun⟩
  · refine .inr ⟨fun v hv => ?_, hd⟩
    rcases hg with hg | hg
    · cases hv.1.symm.trans hg
    · exact hv.2 (Option.some.inj (hv.1.symm.trans hg))

end Params

end ModbusRpc
