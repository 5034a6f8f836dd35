import CredentialVault.Bytes

/-!
# The source of random bytes

Random bytes come from one stream, in the order in which they are drawn. Where a stream comes from
is up to those who run the program: it has a state, and a way to take a byte from a state.
-/

namespace CredentialVault

/-- A stream of random bytes. -/
structure RandomStream where
  /-- The state from which the next byte comes. -/
  state : Nat
  /-- The byte that comes from a state, and the state after it. -/
  step : Nat → UInt8 × Nat

namespace RandomStream

/-- The stream of given bytes, and of zeros when they are used up. -/
def ofBytes (bytes : Bytes) : RandomStream :=
  ⟨0, fun count => (bytes.getD count 0, count + 1)⟩

/-- The stream that counts on from a number; a byte is the number modulo 256. -/
def counting (start : Nat) : RandomStream :=
  ⟨start, fun count => (UInt8.ofNat count, count + 1)⟩

/-- The next byte, and the stream after it. -/
def next (stream : RandomStream) : UInt8 × RandomStream :=
  let (byte, state) := stream.step stream.state
  (byte, { stream with state })

/-- The next `count` bytes, and the stream after them. -/
def draw (stream : RandomStream) : Nat → Bytes × RandomStream
  | 0 => ([], stream)
  | count + 1 =>
    let (byte, rest) := stream.next
    let (bytes, rest) := draw rest count
    (byte :: bytes, rest)

/-- As many bytes are drawn as were asked for. -/
theorem length_draw (stream : RandomStream) (count : Nat) :
    (stream.draw count).1.length = count := by
  induction count generalizing stream with
  | zero => rfl
  | succ count ih => simp [draw, ih]

end RandomStream

end CredentialVault
