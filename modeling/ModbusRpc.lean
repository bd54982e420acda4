import ModbusRpc.Link.Pool
import ModbusRpc.Main
import ModbusRpc.Proofs.Link.Sections
import ModbusRpc.Proofs.Link.Course
import ModbusRpc.Proofs.Link.Lifecycle
import ModbusRpc.Proofs.Link.Transaction
import ModbusRpc.Proofs.Link.Standing
import ModbusRpc.Proofs.Link.Serial
import ModbusRpc.Proofs.Link.Interleaving
import ModbusRpc.Proofs.Modbus.Commands
import ModbusRpc.Proofs.Rpc.Params
import ModbusRpc.Proofs.Rpc.Gate
import ModbusRpc.Proofs.Payload.Bits
import ModbusRpc.Proofs.Rpc.Dispatch
import ModbusRpc.Proofs.Link.Recovery
import ModbusRpc.Proofs.Modbus.Payloads
import ModbusRpc.Proofs.Rpc.Independence
import ModbusRpc.Proofs.Rpc.Coils
import ModbusRpc.Proofs.Rpc.Endings
import ModbusRpc.Proofs.Rpc.Registers
import ModbusRpc.Proofs.Link.Answers
import ModbusRpc.Proofs.Link.Causes
import ModbusRpc.Proofs.Rpc.Wording
import ModbusRpc.Proofs.Gateway.Replies
import ModbusRpc.Proofs.Gateway.Openings
import ModbusRpc.Gateway.Cycle
import ModbusRpc.Proofs.Link.OneFramer
import ModbusRpc.Proofs.Gateway.Cycles
import ModbusRpc.Proofs.Payload.Values
import ModbusRpc.Proofs.Rpc.BitReads
import ModbusRpc.Proofs.Rpc.Echoes
import ModbusRpc.Proofs.Rpc.PayloadTexts
import ModbusRpc.Proofs.Payload.LineBreaks
import ModbusRpc.Proofs.Rpc.Checks
import ModbusRpc.Proofs.Rpc.FirstFault
import ModbusRpc.Proofs.Log.Levels
import ModbusRpc.Proofs.Rpc.Declared
