import ModbusRpc.Fault
import ModbusRpc.Modbus.Exchange

/-! # Devices behind a link

A plan says what happens when a client is created, connected and asked with a request of type `ρ`.
The pattern device acknowledges every write and answers reads with values that depend on the address
only.
-/

namespace ModbusRpc

/-- What a device does during one use of a link. -/
structure Plan (ρ : Type) where
  create : Except DeviceFault Unit
  /-- Connecting succeeds, is refused, or fails. -/
  connect : Except DeviceFault Bool
  reply : ρ → Except DeviceFault Response

namespace Device

def patternBit (address : Int) (i : Nat) : Bool := (address + i) % 3 = 0

def patternWord (address : Int) (i : Nat) : Int := (address + 257 * i) % 65536

def acknowledge (r : Request) : Response :=
  match r.command with
  | .readBits _ count =>
    { bits := (List.range ((count + 7) / 8 * 8).toNat).map (patternBit r.address) }
  | .readWords _ count => { registers := (List.range count.toNat).map (patternWord r.address) }
  | .writeCoil on => { address := r.address, bits := [on] }
  | .writeRegister value => { address := r.address, registers := [value] }
  | .writeCoils values => { address := r.address, count := values.length }
  | .writeRegisters values => { address := r.address, count := values.length }

/-- A device that is always there and acknowledges. -/
def pattern : Plan Request := ⟨.ok (), .ok true, fun r => .ok (acknowledge r)⟩

end Device

end ModbusRpc
