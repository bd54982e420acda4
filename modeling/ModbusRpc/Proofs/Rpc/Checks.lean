import ModbusRpc.Proofs.Rpc.Params
import ModbusRpc.Rpc.Coil
import ModbusRpc.Rpc.Reply

/-! # Checks, one by one

A check asks one thing of the parameters of a call. By itself it says which parameters it refuses
and with what complaint, whatever else is wrong with them. A computation judges parameters by a row
of checks if it ends with the complaint of the first one that refuses them, and succeeds if none
does.
-/

namespace ModbusRpc

/-- What a refused call is told: data about its parameters, or a text about its request. -/
inductive Complaint where
  | params (data : List (String × Json))
  | request (text : String)

/-- A fault of the kind of a complaint, with the same data or text. -/
def Fault.Voices (f : Fault) : Complaint → Prop
  | .params data => f.rpcError? = some ⟨.invalidParams, membersOf data⟩
  | .request text => ∃ g, f = .request g ∧ g.message = text

inductive Check where
  | given (key : Text)
  | number (key : Text)
  | integer (key : Text)
  | word (key : Text)
  | byte (key : Text)
  /-- The value of a coil is zero or one. -/
  | bit
  | payload
  | quantity (greatest : Int)
  | byteCount
  /-- The payload has as many bytes as the quantity needs. -/
  | byteCountFor (expected : Int → Int)

def Json.IsNumber (v : Json) : Prop := (∃ n, v = .int n) ∨ ∃ x, v = .float x

namespace Check

/-- The parameters that a check refuses by itself, and its complaint about them. -/
inductive Refuses (ps : Params) : Check → Complaint → Prop where
  | given {key : Text} : ps.Lacks key →
      Refuses ps (given key) (.params [("msg", .text (key ++ " required"))])
  | number {key : Text} {v : Json} : ps.Gives key v → ¬ v.IsNumber →
      Refuses ps (number key) (.params [("msg", .text (key ++ " should be number"))])
  | integer {key : Text} {v : Json} : ps.Gives key v → (∀ n, v = .int n → ¬ IsInt64 n) →
      Refuses ps (integer key) (.params [("msg", .text (key ++ " should be int"))])
  | word {key : Text} {n : Int} : ps.Gives key (.int n) → ¬ (0 ≤ n ∧ n ≤ 65535) →
      Refuses ps (word key) (.params [("msg", .text (key ++ " should be uint16"))])
  | byte {key : Text} {n : Int} : ps.Gives key (.int n) → ¬ (0 ≤ n ∧ n ≤ 255) →
      Refuses ps (byte key) (.params [("msg", .text (key ++ " should be byte"))])
  | bit {n : Int} : ps.Gives "value" (.int n) → n ≠ 0 → n ≠ 1 →
      Refuses ps bit (.params [("msg", .text "bad value. only 0 or 1 allowed"), ("v", .int n)])
  | noText : (∀ t, ¬ ps.Gives "value" (.text t)) →
      Refuses ps payload (.params [("msg", .text "value required and should be base64")])
  -- The decoder is asked for the wording only.
  | noBase64 {t : Text} {f : Base64.Fault} : ps.Gives "value" (.text t) →
      (¬ ∃ ns, Base64.Spells t ns) → Base64.decode t = .error f →
      Refuses ps payload (.params [("msg", .text f.message)])
  | quantity {greatest q : Int} : ps.Gives "quantity" (.int q) → ¬ (1 ≤ q ∧ q ≤ greatest) →
      Refuses ps (quantity greatest) (.request ("quantity '" ++ toString q ++
        "' must be between '1' and '" ++ toString greatest ++ "'"))
  | byteCount {t : Text} {bytes : List UInt8} : ps.Gives "value" (.text t) →
      Base64.Means t bytes → 255 < bytes.length →
      Refuses ps byteCount (.request ("byte count '" ++ toString bytes.length ++
        "' must not exceed '255'"))
  | byteCountFor {expected : Int → Int} {q : Int} {t : Text} {bytes : List UInt8} :
      ps.Gives "quantity" (.int q) → ps.Gives "value" (.text t) → Base64.Means t bytes →
      (bytes.length : Int) ≠ expected q →
      Refuses ps (byteCountFor expected) (.request ("byte count '" ++ toString bytes.length ++
        "' does not match quantity, expected '" ++ toString (expected q) ++ "'"))

def Passes (ps : Params) (c : Check) : Prop := ∀ k, ¬ c.Refuses ps k

inductive First (ps : Params) : List Check → Complaint → Prop where
  | head {c : Check} {cs : List Check} {k : Complaint} : c.Refuses ps k → First ps (c :: cs) k
  | tail {c : Check} {cs : List Check} {k : Complaint} : c.Passes ps → First ps cs k →
      First ps (c :: cs) k

variable {ps : Params} {c : Check} {cs ds : List Check} {k k' : Complaint}

theorem Refuses.unique (h : c.Refuses ps k) (h' : c.Refuses ps k') : k = k' := by
  cases h with
  | given _ | number _ _ | integer _ _ | word _ _ | byte _ _ => cases h'; rfl
  | bit hn _ _ =>
    cases h' with
    | bit hn' _ _ => cases hn.unique hn'; rfl
  | noText hn =>
    cases h' with
    | noText _ => rfl
    | noBase64 ht _ _ => exact absurd ht (hn _)
  | noBase64 ht _ hf =>
    cases h' with
    | noText hn => exact absurd ht (hn _)
    | noBase64 ht' _ hf' => cases ht.unique ht'; cases hf.symm.trans hf'; rfl
  | quantity hq _ =>
    cases h' with
    | quantity hq' _ => cases hq.unique hq'; rfl
  | byteCount ht hb _ =>
    cases h' with
    | byteCount ht' hb' _ => cases ht.unique ht'; cases hb.unique hb'; rfl
  | byteCountFor hq ht hb _ =>
    cases h' with
    | byteCountFor hq' ht' hb' _ =>
      cases hq.unique hq'
      cases ht.unique ht'
      cases hb.unique hb'
      rfl

namespace First

theorem unique (h : First ps cs k) (h' : First ps cs k') : k = k' := by
  induction h with
  | head hk =>
    cases h' with
    | head hk' => exact hk.unique hk'
    | tail hp _ => exact absurd hk (hp _)
  | tail hp _ ih =>
    cases h' with
    | head hk' => exact absurd hk' (hp _)
    | tail _ h' => exact ih h'

theorem append_left (h : First ps cs k) (ds : List Check) : First ps (cs ++ ds) k := by
  induction h with
  | head hk => exact .head hk
  | tail hp _ ih => exact .tail hp ih

theorem append_right (hp : ∀ c ∈ cs, c.Passes ps) (h : First ps ds k) : First ps (cs ++ ds) k := by
  induction cs with
  | nil => exact h
  | cons c cs ih =>
    obtain ⟨hc, hp⟩ := List.forall_mem_cons.mp hp
    exact .tail hc (ih hp)

end First

/-! ### Judging -/

/-- A computation whose faults are those of some part of a call succeeds if all checks of a row
pass, and otherwise ends in a fault that voices the complaint of the first that does not. -/
inductive Judges {ε α : Type} (part : ε → Fault) (ps : Params) (cs : List Check)
    (x : Except ε α) : Prop where
  | passes {a : α} : x = .ok a → (∀ c ∈ cs, c.Passes ps) → Judges part ps cs x
  | refuses {e : ε} {k : Complaint} : x = .error e → First ps cs k → (part e).Voices k →
      Judges part ps cs x

namespace Judges

variable {ε α β : Type} {part : ε → Fault} {x : Except ε α} {f : α → Except ε β} {a : α} {e : ε}

theorem ok : Judges part ps [] (.ok a : Except ε α) := .passes rfl nofun

theorem bind (hx : Judges part ps cs x) (hf : ∀ a, x = .ok a → Judges part ps ds (f a)) :
    Judges part ps (cs ++ ds) (x >>= f) := by
  cases hx with
  | refuses he hk hv =>
    subst he
    exact .refuses rfl (hk.append_left ds) hv
  | @passes a ha hp =>
    subst ha
    cases hf a rfl with
    | passes hb hp' => exact .passes hb (List.forall_mem_append.mpr ⟨hp, hp'⟩)
    | refuses he hk hv => exact .refuses he (hk.append_right hp) hv

theorem bind_of_ok (hx : Judges part ps cs x) (hf : ∀ a, x = .ok a → ∃ b, f a = .ok b) :
    Judges part ps cs (x >>= f) := by
  cases hx with
  | passes ha hp =>
    subst ha
    obtain ⟨b, hb⟩ := hf _ rfl
    exact .passes hb hp
  | refuses he hk hv =>
    subst he
    exact .refuses rfl hk hv

theorem bind_ok {b : α → β} (hx : Judges part ps cs x) :
    Judges part ps cs (x >>= fun a => .ok (b a)) :=
  hx.bind_of_ok fun a _ => ⟨b a, rfl⟩

theorem map {b : α → β} (hx : Judges part ps cs x) : Judges part ps cs (x.map b) := by
  cases hx with
  | passes ha hp =>
    subst ha
    exact .passes rfl hp
  | refuses he hk hv =>
    subst he
    exact .refuses rfl hk hv

theorem mapError (hx : Judges part ps cs x) : Judges id ps cs (x.mapError part) := by
  cases hx with
  | passes ha hp =>
    subst ha
    exact .passes rfl hp
  | refuses he hk hv =>
    subst he
    exact .refuses rfl hk hv

theorem cons (hc : c.Passes ps) (hx : Judges part ps cs x) : Judges part ps (c :: cs) x := by
  cases hx with
  | passes ha hp => exact .passes ha (List.forall_mem_cons.mpr ⟨hc, hp⟩)
  | refuses he hk hv => exact .refuses he (.tail hc hk) hv

theorem ite {p : Prop} [Decidable p] (hp : p → c.Passes ps)
    (hn : ¬ p → c.Refuses ps k ∧ (part e).Voices k) (hx : Judges part ps cs x) :
    Judges part ps (c :: cs) (if p then x else .error e) := by
  split
  case isTrue h => exact hx.cons (hp h)
  case isFalse h =>
    obtain ⟨hk, hv⟩ := hn h
    exact .refuses rfl (.head hk) hv

end Judges

end Check

end ModbusRpc
