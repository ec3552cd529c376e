import OpcUa.Wire.Fault
import OpcUa.Wire.Message

/-!
# Frames

On the wire a message follows its length, four bytes with the high one first. A stream is read
frame by frame until something is wrong or the stream ends.
-/

namespace OpcUa

namespace Frame

/-- A length in four bytes. -/
def header (size : UInt32) : List UInt8 :=
  [(size >>> 24).toUInt8, (size >>> 16).toUInt8, (size >>> 8).toUInt8, size.toUInt8]

/-- The length that starts the input, and the rest. -/
def header? : List UInt8 → Option (UInt32 × List UInt8)
  | a :: b :: c :: d :: rest =>
    some (a.toUInt32 <<< 24 ||| b.toUInt32 <<< 16 ||| c.toUInt32 <<< 8 ||| d.toUInt32, rest)
  | _ => none

def ofBody (body : List UInt8) : List UInt8 :=
  header (UInt32.ofNat body.length) ++ body

end Frame

namespace Message

def frame (m : Message) : List UInt8 :=
  Frame.ofBody m.bytes

/-- The frame of a message, unless its length is over `max`. -/
def write (max : UInt32) (m : Message) : Except WireFault (List UInt8) :=
  let size := UInt32.ofNat m.bytes.length
  if max < size then .error (.messageTooLarge size max) else .ok m.frame

/-- The message of the frame that starts the input, and what is left of the input. A header or a
body that is cut off uses the input up. -/
def read (max : UInt32) (now : Instant) (input : List UInt8) :
    Except WireFault Message × List UInt8 :=
  match Frame.header? input with
  | none => (.error .connectionClosed, [])
  | some (size, rest) =>
    if max < size then (.error (.messageTooLarge size max), rest)
    else if rest.length < size.toNat then (.error (.io "unexpected end of file"), [])
    else
      match parse? now (rest.take size.toNat) with
      | some m => (.ok m, rest.drop size.toNat)
      | none => (.error .unreadable, rest.drop size.toNat)

theorem length_of_header? {input rest : List UInt8} {size : UInt32}
    (present : Frame.header? input = some (size, rest)) : input.length = rest.length + 4 := by
  unfold Frame.header? at present
  split at present
  · cases present
    rfl
  · cases present

theorem length_of_read {max : UInt32} {now : Instant} {input rest : List UInt8} {m : Message}
    (success : read max now input = (.ok m, rest)) : rest.length < input.length := by
  unfold read at success
  split at success
  · cases success
  · rename_i size body present
    have length := length_of_header? present
    split at success
    · cases success
    · split at success
      · cases success
      · split at success <;> cases success
        simp only [List.length_drop]
        omega

/-- All messages of a stream, the fault that ends the reading, and what is left unread. -/
def readAll (max : UInt32) (now : Instant) (input : List UInt8) :
    List Message × WireFault × List UInt8 :=
  match _success : read max now input with
  | (.ok m, rest) =>
    let (messages, fault, left) := readAll max now rest
    (m :: messages, fault, left)
  | (.error fault, rest) => ([], fault, rest)
termination_by input.length
decreasing_by exact length_of_read _success

end Message

end OpcUa
