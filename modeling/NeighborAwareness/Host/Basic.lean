import NeighborAwareness.Host.SystemCall
import NeighborAwareness.Note

/-!
# The host

The operating system as the program meets it: each socket answers its calls with error numbers and
its reads with data, one after the other. A host is the sockets still to be opened and what has
been asked and noted so far; an open socket carries its remaining answers itself.

## Main definitions

* `Reading`, `SocketScript` : how one socket answers.
* `Socket` : an open socket.
* `Host` : the sockets to come, the calls made and the notes taken.
* `Host.openSocket`, `Host.bind`, `Host.setOption`, `Host.send`, `Socket.receive` : the calls.
-/

namespace NeighborAwareness

/-- What one read from a socket gives. -/
inductive Reading where
  | data (octets : Bytes)
  | failed (number : Nat)
  deriving DecidableEq, Repr

/-- How one socket answers: the error numbers of its calls, zero for success, and what its reads
give. Calls beyond the end of a list succeed. -/
structure SocketScript where
  opening : Nat
  binding : Nat
  options : List Nat
  sends : List Nat
  reads : List Reading
  deriving DecidableEq, Repr

/-- A socket that grants every call and has nothing to read. -/
def SocketScript.idle : SocketScript :=
  ⟨0, 0, [], [], []⟩

/-- An open socket with its remaining answers. -/
structure Socket where
  number : Nat
  script : SocketScript
  deriving DecidableEq, Repr

/-- The operating system. -/
structure Host where
  /-- The index that each interface name resolves to, zero for none. -/
  interfaceIndex : UInt32
  /-- The sockets still to be opened. -/
  scripts : List SocketScript
  /-- How many sockets have been opened. -/
  opened : Nat
  calls : List SystemCall
  notes : List Note
  deriving DecidableEq, Repr

namespace Host

/-- A host on which nothing has happened. -/
def start (interfaceIndex : UInt32) (scripts : List SocketScript) : Host :=
  ⟨interfaceIndex, scripts, 0, [], []⟩

/-- The host after a call. -/
def asked (h : Host) (call : SystemCall) : Host :=
  { h with calls := h.calls ++ [call] }

/-- The host after notes were taken. -/
def noted (h : Host) (notes : List Note) : Host :=
  { h with notes := h.notes ++ notes }

/-- The host without the calls and notes made so far. -/
def cleared (h : Host) : Host :=
  { h with calls := [], notes := [] }

/-! ### Calls -/

/-- The answer of a call: nothing for zero, else the failure with that error number. -/
def outcome (number : Nat) : Except Failure Unit :=
  if number = 0 then .ok () else .error (.of (.system number))

/-- Asks for the index of an interface. -/
def resolve (h : Host) (name : String) : UInt32 × Host :=
  (h.interfaceIndex, h.asked (.interfaceIndex name))

/-- Opens a socket. Only sockets that open are counted. -/
def openSocket (h : Host) (domain type protocol : Nat) : Except Failure Socket × Host :=
  let script := h.scripts.head?.getD .idle
  let after := { h.asked (.openSocket domain type protocol) with scripts := h.scripts.tail }
  match outcome script.opening with
  | .error failure => (.error failure, after)
  | .ok () => (.ok ⟨h.opened, script⟩, { after with opened := h.opened + 1 })

/-- Binds a socket. -/
def bind (h : Host) (s : Socket) (address : SocketAddress) : Except Failure Unit × Host :=
  (outcome s.script.binding, h.asked (.bind s.number address))

/-- Sets an option of a socket by `call`. -/
def setOption (h : Host) (s : Socket) (call : SystemCall) :
    Except Failure Unit × Socket × Host :=
  (outcome (s.script.options.headD 0),
    { s with script := { s.script with options := s.script.options.tail } },
    h.asked call)

/-- Sends octets through a socket. -/
def send (h : Host) (s : Socket) (data : Bytes) : Except Failure Unit × Socket × Host :=
  (outcome (s.script.sends.headD 0),
    { s with script := { s.script with sends := s.script.sends.tail } },
    h.asked (.send s.number data))

end Host

/-! ### Reads -/

/-- Reads from a socket; `exhausted` is the error number once nothing is left to read. -/
def Socket.receive (s : Socket) (exhausted : Nat) : Reading × Socket :=
  (s.script.reads.headD (.failed exhausted),
    { s with script := { s.script with reads := s.script.reads.tail } })

end NeighborAwareness
