import Sudonit.Core.Effect
import Sudonit.Core.Slots
import Sudonit.Device.Playback

/-!
# `transport_tcp.c` and `transport_wifi.c`: connections and their descriptors

Both backends open a connection in the same way.  `Held` is what the process holds, and a `Dial` says what
`getaddrinfo` and the kernel do during one call of `sd_transport_connect`, so that quantifying over dials is
quantifying over every network.

* `connectWithTimeout`, `sdTransportConnect`, `sdTransportClose` — the code.
* `firstConnected_run`, `sdTransportConnect_run` — the loop over the addresses, and what a call does.
* `connect_first_reached` — what a call returns, holds and waits for.
* `handles_own_sockets` — over any number of calls, what is held is what was held and the open connections.
-/

namespace Sudonit

open Octets CText Slots

/-! ## What the process holds -/

/-- A socket: whether `O_NONBLOCK` is among its flags, whom it is connected to, and its two timeouts in
milliseconds. -/
structure Socket where
  nonblocking : Bool
  peer : Option Bytes
  recvTimeout : Option ℕ
  sendTimeout : Option ℕ

/-- A socket as `socket` makes it. -/
def Socket.fresh : Socket := ⟨false, none, none, none⟩

/-- Its descriptors; the address lists and the transports not freed; and how many milliseconds it has
waited, which is no variable of the code. -/
structure Held where
  socks : List (ℕ × Socket)
  lists : ℕ
  transports : ℕ
  waited : ℕ

/-- The lowest descriptor of a socket, and `FD_SETSIZE`. -/
structure Platform where
  first : ℕ
  fdSetSize : ℕ

/-- `struct sd_transport`. -/
structure Transport where
  fd : ℕ
  deriving DecidableEq

/-! ## What the kernel does -/

/-- When `select` finds a socket writable. -/
inductive Selected
  | ready (ms : ℕ)
  | never
  | failed

/-- What `connect` does: it succeeds, fails, or is in progress; then `select` waits, and `SO_ERROR` can be
read and is zero, or not. -/
inductive Connecting
  | established
  | refused
  | inProgress (select : Selected) (status : Bool)

/-- What the calls for one address do: `socket`, the three of `fcntl`, and `connect`. -/
structure Attempt where
  socket : Bool
  getFlags : Bool
  setFlags : Bool
  connect : Connecting
  restore : Bool

/-- An entry of the list of `getaddrinfo`, and what the kernel does with it. -/
structure Candidate where
  addr : Bytes
  kernel : Attempt

/-- One call of `sd_transport_connect`: `getaddrinfo` on the host and the port, the two of `setsockopt`, and
`calloc`. -/
structure Dial where
  resolve : Bytes → Bytes → Option (List Candidate)
  setRecvTimeout : Bool
  setSendTimeout : Bool
  calloc : Bool

/-! ## Calls of the kernel -/

/-- `SD_CONNECT_TIMEOUT_MS` -/
def sdConnectTimeoutMs : ℕ := 5000

/-- `SD_IO_TIMEOUT_MS` -/
def sdIoTimeoutMs : ℕ := 15000

/-- Whatever is done to a descriptor is done to one that is open. -/
def onSocket (fd : ℕ) (f : Socket → Socket) : Effect Held Halt Unit := ⟨fun k =>
  if fd ∈ taken k.socks then (.ok (), { k with socks := update fd f k.socks }) else (.error .undefined, k)⟩

/-- `socket`. -/
def openSocket (p : Platform) (ok : Bool) : Effect Held Halt (Option ℕ) := ⟨fun k =>
  if ok then (.ok (some (lowest p.first (taken k.socks))), { k with socks := add p.first .fresh k.socks })
  else (.ok none, k)⟩

/-- `close`. -/
def closeFd (fd : ℕ) : Effect Held Halt Unit := ⟨fun k =>
  if fd ∈ taken k.socks then (.ok (), { k with socks := remove fd k.socks }) else (.error .undefined, k)⟩

/-- `fcntl(fd, F_GETFL, 0)`, as far as `O_NONBLOCK` is concerned. -/
def getNonblocking (fd : ℕ) : Effect Held Halt Bool := ⟨fun k =>
  match k.socks.lookup fd with
  | none => (.error .undefined, k)
  | some sock => (.ok sock.nonblocking, k)⟩

/-- `FD_SET`: an `fd_set` has a bit for the descriptors below `FD_SETSIZE`. -/
def fdSet (p : Platform) (fd : ℕ) : Effect Held Halt Unit :=
  if fd < p.fdSetSize then pure () else Effect.fail .undefined

/-- `select` for at most `SD_CONNECT_TIMEOUT_MS`. -/
def select : Selected → Effect Held Halt Bool
  | .ready ms => ⟨fun k =>
      (.ok (decide (ms ≤ sdConnectTimeoutMs)), { k with waited := k.waited + min ms sdConnectTimeoutMs })⟩
  | .never => ⟨fun k => (.ok false, { k with waited := k.waited + sdConnectTimeoutMs })⟩
  | .failed => pure false

/-! ## The code -/

/-- `connect` and what follows it, up to the flags. -/
def awaitConnect (p : Platform) (fd : ℕ) : Connecting → Effect Held Halt Bool
  | .established => pure true
  | .refused => pure false
  | .inProgress selected status => do
      fdSet p fd
      let ready ← select selected
      return ready && status

/-- `connect_with_timeout`. -/
def connectWithTimeout (p : Platform) (fd : ℕ) (c : Candidate) : Effect Held Halt Bool :=
  if c.kernel.getFlags = false then pure false
  else do
    let flags ← getNonblocking fd
    if c.kernel.setFlags = false then pure false
    else do
      onSocket fd fun sock => { sock with nonblocking := true }
      let connected ← awaitConnect p fd c.kernel.connect
      if connected then do
        onSocket fd fun sock => { sock with peer := some c.addr }
        if c.kernel.restore then onSocket fd fun sock => { sock with nonblocking := flags } else pure ()
        return true
      else return false

/-- The loop over the addresses. -/
def firstConnected (p : Platform) : List Candidate → Effect Held Halt (Option ℕ)
  | [] => pure none
  | c :: cs => do
      let opened ← openSocket p c.kernel.socket
      match opened with
      | none => firstConnected p cs
      | some fd => do
          let connected ← connectWithTimeout p fd c
          if connected then return some fd
          else do
            closeFd fd
            firstConnected p cs

/-- `set_io_timeouts`. -/
def setIoTimeouts (d : Dial) (fd : ℕ) : Effect Held Halt Unit := do
  onSocket fd fun sock => if d.setRecvTimeout then { sock with recvTimeout := some sdIoTimeoutMs } else sock
  onSocket fd fun sock => if d.setSendTimeout then { sock with sendTimeout := some sdIoTimeoutMs } else sock

/-- `getaddrinfo`. -/
def getAddrInfo (d : Dial) (host : CStr) (port : UInt16) : Effect Held Halt (List Candidate) := ⟨fun k =>
  match d.resolve host.bytes (decimal port.toNat) with
  | none => (.error (.code .io), k)
  | some res => (.ok res, { k with lists := k.lists + 1 })⟩

/-- `freeaddrinfo`. -/
def freeAddrInfo : Effect Held Halt Unit := ⟨fun k =>
  if k.lists = 0 then (.error .undefined, k) else (.ok (), { k with lists := k.lists - 1 })⟩

/-- `calloc` of the transport, and `*out`. -/
def newTransport (d : Dial) (fd : ℕ) : Effect Held Halt Transport :=
  if d.calloc = false then do
    closeFd fd
    Effect.fail (.code .noMem)
  else ⟨fun k => (.ok ⟨fd⟩, { k with transports := k.transports + 1 })⟩

/-- `sd_transport_connect`.  `*out` is set only if it returns. -/
def sdTransportConnect (p : Platform) (d : Dial) (host : CStr) (port : UInt16) : Effect Held Halt Transport := do
  let res ← getAddrInfo d host port
  let found ← firstConnected p res
  freeAddrInfo
  match found with
  | none => Effect.fail (.code .io)
  | some fd => do
      setIoTimeouts d fd
      newTransport d fd

/-- `free`. -/
def freeTransport : Effect Held Halt Unit := ⟨fun k =>
  if k.transports = 0 then (.error .undefined, k) else (.ok (), { k with transports := k.transports - 1 })⟩

/-- `sd_transport_close`. -/
def sdTransportClose (t : Transport) : Effect Held Halt Unit := do
  closeFd t.fd
  freeTransport

/-! ## What a call does -/

/-- What is waited for, in milliseconds. -/
def Connecting.waits : Connecting → ℕ
  | .inProgress (.ready ms) _ => min ms sdConnectTimeoutMs
  | .inProgress .never _ => sdConnectTimeoutMs
  | _ => 0

/-- The connection is there in time. -/
def Connecting.connects : Connecting → Bool
  | .established => true
  | .inProgress (.ready ms) status => decide (ms ≤ sdConnectTimeoutMs) && status
  | _ => false

/-- The address is reached. -/
def Candidate.reached (c : Candidate) : Bool :=
  c.kernel.socket && c.kernel.getFlags && c.kernel.setFlags && c.kernel.connect.connects

/-- What is waited for at the address. -/
def Candidate.waits (c : Candidate) : ℕ :=
  if c.kernel.socket && c.kernel.getFlags && c.kernel.setFlags then c.kernel.connect.waits else 0

/-- The socket of an address that was reached. -/
def Candidate.sock (c : Candidate) : Socket := ⟨!c.kernel.restore, some c.addr, none, none⟩

/-- What is waited for up to the first address that is reached. -/
def waitsFor : List Candidate → ℕ
  | [] => 0
  | c :: cs => c.waits + if c.reached then 0 else waitsFor cs

lemma Connecting.waits_le (c : Connecting) : c.waits ≤ sdConnectTimeoutMs := by
  rcases c with _ | _ | ⟨ms | _ | _, status⟩ <;> simp [waits]

lemma waitsFor_le (cs : List Candidate) : waitsFor cs ≤ cs.length * sdConnectTimeoutMs := by
  induction cs with
  | nil => simp [waitsFor]
  | cons c cs ih =>
      have hc : c.waits ≤ sdConnectTimeoutMs := by
        rw [Candidate.waits]
        split_ifs
        · exact c.kernel.connect.waits_le
        · exact Nat.zero_le _
      rw [waitsFor, List.length_cons, Nat.succ_mul]
      split_ifs <;> omega

section Front

variable {p : Platform} {fd : ℕ} {sock : Socket} {rest : List (ℕ × Socket)} {k : Held}

/-- What is done to the socket opened last. -/
lemma onSocket_front (h : fd ∉ taken rest) (hk : k.socks = (fd, sock) :: rest) (f : Socket → Socket) :
    (onSocket fd f).run k = (.ok (), { k with socks := (fd, f sock) :: rest }) := by
  simp only [onSocket, hk, taken_cons, List.mem_cons_self, if_true, update_cons_self h]

lemma closeFd_front (h : fd ∉ taken rest) (hk : k.socks = (fd, sock) :: rest) :
    (closeFd fd).run k = (.ok (), { k with socks := rest }) := by
  simp only [closeFd, hk, taken_cons, List.mem_cons_self, if_true, remove_cons_self h]

lemma awaitConnect_run (hfd : fd < p.fdSetSize) (c : Connecting) (k : Held) :
    (awaitConnect p fd c).run k = (.ok c.connects, { k with waited := k.waited + c.waits }) := by
  rcases c with _ | _ | ⟨ms | _ | _, status⟩
  · rfl
  · rfl
  all_goals
    rw [awaitConnect, fdSet, if_pos hfd]
    rfl

/-- **One address**: the socket opened for it is connected and as it was, or it is not. -/
theorem connectWithTimeout_run (hfd : fd < p.fdSetSize) (h : fd ∉ taken rest)
    (hk : k.socks = (fd, .fresh) :: rest) {c : Candidate} (hc : c.kernel.socket = true) :
    ∃ sock, (connectWithTimeout p fd c).run k
        = (.ok c.reached, { k with socks := (fd, sock) :: rest, waited := k.waited + c.waits }) ∧
      (c.reached = true → sock = c.sock) := by
  rw [connectWithTimeout, Candidate.reached, Candidate.waits, hc]
  cases hget : c.kernel.getFlags with
  | false => exact ⟨.fresh, by simp [← hk], by simp⟩
  | true =>
      have hflags : (getNonblocking fd).run k = (.ok false, k) := by
        simp only [getNonblocking, hk, List.lookup_cons_self]
        rfl
      rw [if_neg (by simp), Effect.run_bind_ok hflags]
      cases hset : c.kernel.setFlags with
      | false => exact ⟨.fresh, by simp [← hk], by simp⟩
      | true =>
          simp only [Bool.and_self, Bool.true_and, if_true, Bool.true_eq_false, if_false]
          rw [Effect.run_bind_ok (onSocket_front h hk _), Effect.run_bind_ok (awaitConnect_run hfd _ _)]
          cases hconnects : c.kernel.connect.connects with
          | false => exact ⟨_, rfl, by simp⟩
          | true =>
              simp only [if_true]
              rw [Effect.run_bind_ok (onSocket_front h rfl _)]
              refine ⟨c.sock, ?_, fun _ => rfl⟩
              cases hrestore : c.kernel.restore with
              | false =>
                  simp only [Bool.false_eq_true, if_false, Candidate.sock, hrestore]
                  rfl
              | true =>
                  simp only [if_true, Candidate.sock, hrestore]
                  rw [Effect.run_bind_ok (onSocket_front h rfl _)]
                  rfl

end Front

/-- There is a descriptor that an `fd_set` has a bit for. -/
def Held.Roomy (p : Platform) (k : Held) : Prop := p.first + k.socks.length < p.fdSetSize

/-- **The loop over the addresses** opens a connection to the first that is reached, and closes every other
socket that it opened. -/
theorem firstConnected_run (p : Platform) {k : Held} (hk : k.Roomy p) (cs : List Candidate) :
    (firstConnected p cs).run k = match cs.find? Candidate.reached with
      | none => (.ok none, { k with waited := k.waited + waitsFor cs })
      | some c => (.ok (some (lowest p.first (taken k.socks))),
          { k with socks := add p.first c.sock k.socks, waited := k.waited + waitsFor cs }) := by
  induction cs generalizing k with
  | nil => rfl
  | cons c cs ih =>
      rw [firstConnected]
      cases hsocket : c.kernel.socket with
      | false =>
          have hreached : c.reached = false := by rw [Candidate.reached, hsocket]; rfl
          have hwaits : c.waits = 0 := by rw [Candidate.waits, hsocket]; rfl
          rw [List.find?_cons_of_neg (by simp [hreached]), waitsFor, hreached, hwaits]
          simpa [openSocket, Effect.run_bind] using ih hk
      | true =>
          have hopen : (openSocket p true).run k = (.ok (some (lowest p.first (taken k.socks))),
              { k with socks := add p.first .fresh k.socks }) := rfl
          have hfd : lowest p.first (taken k.socks) < p.fdSetSize := by
            have hle := lowest_le p.first (taken k.socks)
            rw [taken, List.length_map] at hle
            exact lt_of_le_of_lt hle hk
          have hfree := lowest_notMem p.first (taken k.socks)
          obtain ⟨sock, hrun, hsock⟩ := connectWithTimeout_run (p := p) hfd hfree
            (k := { k with socks := add p.first .fresh k.socks }) rfl hsocket
          rw [Effect.run_bind_ok hopen]
          simp only
          rw [Effect.run_bind_ok hrun]
          cases hreached : c.reached with
          | true =>
              rw [List.find?_cons_of_pos hreached, waitsFor, hreached, hsock hreached]
              rfl
          | false =>
              rw [List.find?_cons_of_neg (by simp [hreached]), waitsFor, hreached]
              simp only [Bool.false_eq_true, if_false]
              have hrest := ih (k := { k with waited := k.waited + c.waits }) hk
              rw [Effect.run_bind_ok (closeFd_front hfree rfl)]
              simp only [hrest, Nat.add_assoc]

/-- The addresses of the host. -/
def Dial.addresses (d : Dial) (host : CStr) (port : UInt16) : List Candidate :=
  (d.resolve host.bytes (decimal port.toNat)).getD []

/-- The socket of a connection. -/
def Dial.sock (d : Dial) (c : Candidate) : Socket where
  nonblocking := !c.kernel.restore
  peer := some c.addr
  recvTimeout := if d.setRecvTimeout then some sdIoTimeoutMs else none
  sendTimeout := if d.setSendTimeout then some sdIoTimeoutMs else none

lemma setIoTimeouts_front {fd : ℕ} {rest : List (ℕ × Socket)} (h : fd ∉ taken rest) (d : Dial) (c : Candidate)
    {k : Held} (hk : k.socks = (fd, c.sock) :: rest) :
    (setIoTimeouts d fd).run k = (.ok (), { k with socks := (fd, d.sock c) :: rest }) := by
  rw [setIoTimeouts, Effect.run_bind_ok (onSocket_front h hk _), onSocket_front h rfl _, Candidate.sock, Dial.sock]
  cases d.setRecvTimeout <;> cases d.setSendTimeout <;> rfl

/-- **What `sd_transport_connect` does**, on every network: it connects to the first address that is reached
within the timeout, in the order of `getaddrinfo`; whatever else it opened or allocated is closed and freed,
and so is the connection when there is no memory for its handle; and it waits at most the timeout for each
address. -/
theorem sdTransportConnect_run (p : Platform) (d : Dial) (host : CStr) (port : UInt16) {k : Held}
    (hk : k.Roomy p) : (sdTransportConnect p d host port).run k
      = (match (d.addresses host port).find? Candidate.reached with
        | none => (.error (.code .io), { k with waited := k.waited + waitsFor (d.addresses host port) })
        | some c =>
            if d.calloc then
              (.ok ⟨lowest p.first (taken k.socks)⟩, { k with
                socks := add p.first (d.sock c) k.socks
                transports := k.transports + 1
                waited := k.waited + waitsFor (d.addresses host port) })
            else (.error (.code .noMem), { k with waited := k.waited + waitsFor (d.addresses host port) })) := by
  rw [sdTransportConnect, Dial.addresses, Effect.run_bind, getAddrInfo]
  cases hres : d.resolve host.bytes (decimal port.toNat) with
  | none => rfl
  | some res =>
      have hroom : ({ k with lists := k.lists + 1 } : Held).Roomy p := hk
      simp only [Option.getD_some]
      rw [Effect.run_bind, firstConnected_run p hroom]
      have hlists : k.lists + 1 ≠ 0 := Nat.succ_ne_zero _
      cases hfound : res.find? Candidate.reached with
      | none =>
          simp only [Effect.run_bind, freeAddrInfo, if_neg hlists, Nat.add_sub_cancel, Effect.run_fail]
      | some c =>
          have hfree := lowest_notMem p.first (taken k.socks)
          simp only [Effect.run_bind, freeAddrInfo, if_neg hlists, Nat.add_sub_cancel]
          rw [setIoTimeouts_front hfree d c rfl]
          simp only [newTransport]
          cases d.calloc with
          | false =>
              simp only [if_true, Effect.run_bind, Bool.false_eq_true, if_false]
              rw [closeFd_front hfree rfl]
              rfl
          | true => rfl

/-- The connection made by a call: to the first address that is reached, under a new descriptor. -/
structure Connected (p : Platform) (d : Dial) (host : CStr) (port : UInt16) (k : Held) (t : Transport)
    (k' : Held) : Prop where
  reached : ∃ before c after, d.addresses host port = before ++ c :: after ∧ c.reached = true ∧
    (∀ b ∈ before, b.reached = false) ∧ k'.socks = (t.fd, d.sock c) :: k.socks
  fresh : t.fd ∉ taken k.socks
  lists : k'.lists = k.lists
  transports : k'.transports = k.transports + 1

/-- Closing the connection leaves what was held before it was made. -/
lemma Connected.close {p : Platform} {d : Dial} {host : CStr} {port : UInt16} {k k' : Held} {t : Transport}
    (h : Connected p d host port k t k') :
    (sdTransportClose t).run k' = (.ok (), { k with waited := k'.waited }) := by
  obtain ⟨before, c, after, -, -, -, hsocks⟩ := h.reached
  have hcount : k.transports + 1 ≠ 0 := Nat.succ_ne_zero _
  rw [sdTransportClose, Effect.run_bind_ok (closeFd_front h.fresh hsocks)]
  simp only [freeTransport, h.transports, h.lists, if_neg hcount, Nat.add_sub_cancel]

/-- What a call leaves of a state when it fails: the time it took. -/
def Held.after (k : Held) (ms : ℕ) : Held := { k with waited := k.waited + ms }

/-- A call fails and leaves nothing behind, or connects. -/
lemma sdTransportConnect_cases (p : Platform) (d : Dial) (host : CStr) (port : UInt16) {k : Held}
    (hk : k.Roomy p) :
    (∃ e, (sdTransportConnect p d host port).run k
        = (.error (.code e), k.after (waitsFor (d.addresses host port))) ∧
      (e = .io ∧ (∀ c ∈ d.addresses host port, c.reached = false) ∨
        e = .noMem ∧ d.calloc = false ∧ ∃ c ∈ d.addresses host port, c.reached = true)) ∨
    ∃ t k', (sdTransportConnect p d host port).run k = (.ok t, k') ∧ Connected p d host port k t k' ∧
      d.calloc = true ∧ k'.waited = k.waited + waitsFor (d.addresses host port) := by
  rw [sdTransportConnect_run p d host port hk]
  cases hfound : (d.addresses host port).find? Candidate.reached with
  | none =>
      rw [List.find?_eq_none] at hfound
      simp only [Bool.not_eq_true] at hfound
      exact Or.inl ⟨.io, rfl, Or.inl ⟨rfl, hfound⟩⟩
  | some c =>
      obtain ⟨hreached, before, after, haddrs, hbefore⟩ := List.find?_eq_some_iff_append.mp hfound
      have hc : c ∈ d.addresses host port := haddrs ▸ by simp
      simp only
      split_ifs with hcalloc
      · exact Or.inr ⟨_, _, rfl, ⟨⟨before, c, after, haddrs, hreached, by simpa using hbefore, rfl⟩,
          lowest_notMem _ _, rfl, rfl⟩, hcalloc, rfl⟩
      · exact Or.inl ⟨.noMem, rfl, Or.inr ⟨rfl, Bool.not_eq_true _ ▸ hcalloc, c, hc, hreached⟩⟩

/-- **A call of `sd_transport_connect`**, on every network, does nothing undefined and waits at most five
seconds for each address.  It returns a connection to the first address, in the order of `getaddrinfo`, that
is reached in that time; or it fails and holds what it held, with `SD_ERR_IO` exactly if there is no such
address. -/
theorem connect_first_reached (p : Platform) (d : Dial) (host : CStr) (port : UInt16) {k : Held}
    (hk : k.Roomy p) : ∃ r k', (sdTransportConnect p d host port).run k = (r, k') ∧
      k'.waited ≤ k.waited + (d.addresses host port).length * sdConnectTimeoutMs ∧
      ((∃ t, r = .ok t ∧ Connected p d host port k t k') ∨
        (k' = { k with waited := k'.waited } ∧ (r = .error (.code .io) ∨ r = .error (.code .noMem)) ∧
          (r = .error (.code .io) ↔ ∀ c ∈ d.addresses host port, c.reached = false))) := by
  have hwaits := waitsFor_le (d.addresses host port)
  rcases sdTransportConnect_cases p d host port hk with
    ⟨e, hrun, ⟨rfl, hnone⟩ | ⟨rfl, -, c, hc, hreached⟩⟩ | ⟨t, k', hrun, hconnected, -, hwaited⟩
  · exact ⟨_, _, hrun, Nat.add_le_add_left hwaits _, Or.inr ⟨rfl, Or.inl rfl, iff_of_true rfl hnone⟩⟩
  · refine ⟨_, _, hrun, Nat.add_le_add_left hwaits _, Or.inr ⟨rfl, Or.inr rfl, iff_of_false (by simp) ?_⟩⟩
    intro hnone
    rw [hnone c hc] at hreached
    simp at hreached
  · exact ⟨_, _, hrun, hwaited ▸ Nat.add_le_add_left hwaits _, Or.inl ⟨t, rfl, hconnected⟩⟩

/-- `FD_SETSIZE` of the host. -/
def hostPlatform : Platform := ⟨0, 1024⟩

/-- `"phone"`. -/
def phoneHost : CStr := ⟨ascii "phone", by decide⟩

/-- A name with two addresses: the first does not answer, the second does after three milliseconds. -/
def secondAnswers : Dial where
  resolve _ _ := some [⟨[1], ⟨true, true, true, .inProgress .never true, true⟩⟩,
    ⟨[2], ⟨true, true, true, .inProgress (.ready 3) true, true⟩⟩]
  setRecvTimeout := true
  setSendTimeout := true
  calloc := true

/-- A process that holds three descriptors. -/
def threeHeld : Held := ⟨[(2, .fresh), (1, .fresh), (0, .fresh)], 0, 0, 0⟩

lemma threeHeld_roomy : threeHeld.Roomy hostPlatform := by
  rw [Held.Roomy]
  decide

/-- The second address is reached. -/
theorem connect_first_reached_second : ∃ r k',
    (sdTransportConnect hostPlatform secondAnswers phoneHost 8765).run threeHeld = (r, k') ∧
      k'.waited ≤ threeHeld.waited + (secondAnswers.addresses phoneHost 8765).length * sdConnectTimeoutMs ∧
      ((∃ t, r = .ok t ∧ Connected hostPlatform secondAnswers phoneHost 8765 threeHeld t k') ∨
        (k' = { threeHeld with waited := k'.waited } ∧
          (r = .error (.code .io) ∨ r = .error (.code .noMem)) ∧
          (r = .error (.code .io) ↔ ∀ c ∈ secondAnswers.addresses phoneHost 8765, c.reached = false))) ∧
      r = .ok ⟨3⟩ ∧ k'.waited = 5003 := by
  obtain ⟨r, k', hrun, hwaited, hend⟩ :=
    connect_first_reached hostPlatform secondAnswers phoneHost 8765 threeHeld_roomy
  have hthird : (sdTransportConnect hostPlatform secondAnswers phoneHost 8765).run threeHeld
      = (.ok ⟨3⟩, ⟨(3, ⟨false, some [2], some 15000, some 15000⟩) :: threeHeld.socks, 0, 1, 5003⟩) := by
    rw [sdTransportConnect_run hostPlatform secondAnswers phoneHost 8765 threeHeld_roomy]
    rfl
  obtain ⟨rfl, rfl⟩ := Prod.mk.inj (hrun.symm.trans hthird)
  exact ⟨_, _, hrun, hwaited, hend, rfl, rfl⟩

/-! ## Connections over any number of calls -/

/-- A program that opens and closes connections: what it holds, and the transports it has not closed, the
last one first. -/
structure Client where
  held : Held
  live : List Transport

/-- What it does next: connect, or close one of its transports. -/
inductive TransportOp
  | connect (d : Dial) (host : CStr) (port : UInt16)
  | close (i : ℕ)

/-- A connection that is not made is given up; nothing is closed twice. -/
def TransportOp.effect (p : Platform) : TransportOp → Effect Client Halt Unit
  | .connect d host port => ⟨fun c =>
      match (sdTransportConnect p d host port).run c.held with
      | (.ok t, k) => (.ok (), ⟨k, t :: c.live⟩)
      | (.error (.code _), k) => (.ok (), ⟨k, c.live⟩)
      | (.error .undefined, k) => (.error .undefined, ⟨k, c.live⟩)⟩
  | .close i => ⟨fun c =>
      match c.live[i]? with
      | none => (.ok (), c)
      | some t =>
          match (sdTransportClose t).run c.held with
          | (.ok (), k) => (.ok (), ⟨k, c.live.eraseIdx i⟩)
          | (.error e, k) => (.error e, ⟨k, c.live⟩)⟩

/-- The program holds what it held at the beginning and, for each of its transports, the handle and a socket
that is connected. -/
structure Client.Owns (c : Client) (k₀ : Held) : Prop where
  socks : ∃ own, c.held.socks = own ++ k₀.socks ∧ taken own = c.live.map Transport.fd ∧
    ∀ e ∈ own, e.2.peer.isSome
  distinct : (taken c.held.socks).Nodup
  lists : c.held.lists = k₀.lists
  transports : c.held.transports = k₀.transports + c.live.length

/-- One step. -/
lemma TransportOp.keeps (p : Platform) (op : TransportOp) {c : Client} {k₀ : Held} (h : c.Owns k₀)
    (hroom : c.held.Roomy p) : ∃ c', (op.effect p).run c = (.ok (), c') ∧ c'.Owns k₀ := by
  obtain ⟨⟨own, hsocks, htaken, hpeers⟩, hdistinct, hlists, htransports⟩ := h
  cases op with
  | connect d host port =>
      have hrun := sdTransportConnect_run p d host port hroom
      have same : ∀ waited, ({ c with held := { c.held with waited := waited } } : Client).Owns k₀ :=
        fun waited => ⟨⟨own, hsocks, htaken, hpeers⟩, hdistinct, hlists, htransports⟩
      cases hfound : (d.addresses host port).find? Candidate.reached with
      | none =>
          rw [hfound] at hrun
          simp only [effect, hrun]
          exact ⟨_, rfl, same _⟩
      | some cand =>
          cases hcalloc : d.calloc with
          | false =>
              rw [hfound, hcalloc] at hrun
              simp only [effect, hrun, Bool.false_eq_true, if_false]
              exact ⟨_, rfl, same _⟩
          | true =>
              rw [hfound, hcalloc] at hrun
              simp only [effect, hrun, if_true]
              refine ⟨_, rfl, ⟨⟨(lowest p.first (taken c.held.socks), d.sock cand) :: own, ?_, ?_, ?_⟩, ?_,
                hlists, ?_⟩⟩
              · rw [add, hsocks]
                rfl
              · rw [taken_cons, htaken]
                rfl
              · exact List.forall_mem_cons.mpr ⟨rfl, hpeers⟩
              · rw [add, taken_cons, List.nodup_cons]
                exact ⟨lowest_notMem _ _, hdistinct⟩
              · simp only [List.length_cons, htransports, Nat.add_assoc]
  | close i =>
      cases ht : c.live[i]? with
      | none =>
          simp only [effect, ht]
          exact ⟨_, rfl, ⟨⟨own, hsocks, htaken, hpeers⟩, hdistinct, hlists, htransports⟩⟩
      | some t =>
          have hi : i < c.live.length := (List.getElem?_eq_some_iff.mp ht).1
          have hown : (own.map Prod.fst)[i]? = some t.fd := by
            rw [show own.map Prod.fst = c.live.map Transport.fd from htaken, List.getElem?_map, ht]
            rfl
          obtain ⟨⟨fd, sock⟩, he, rfl⟩ := Option.map_eq_some_iff.mp ((List.getElem?_map ..).symm.trans hown)
          have hlt : i < own.length := (List.getElem?_eq_some_iff.mp he).1
          have hplace : c.held.socks[i]? = some (t.fd, sock) := by
            rw [hsocks, List.getElem?_append_left hlt]
            exact he
          have hmem : t.fd ∈ taken c.held.socks := List.mem_map_of_mem (List.mem_of_getElem? hplace)
          have hrest : remove t.fd c.held.socks = own.eraseIdx i ++ k₀.socks := by
            rw [remove_eq_eraseIdx hdistinct hplace, hsocks, List.eraseIdx_append_of_lt_length hlt]
          have hcount : c.held.transports ≠ 0 := by omega
          have hclose : (sdTransportClose t).run c.held = (.ok (), { c.held with
              socks := own.eraseIdx i ++ k₀.socks
              transports := c.held.transports - 1 }) := by
            simp only [sdTransportClose, Effect.run_bind, closeFd, if_pos hmem, hrest, freeTransport, if_neg hcount]
          simp only [effect, ht, hclose]
          refine ⟨_, rfl, ⟨⟨own.eraseIdx i, rfl, ?_, ?_⟩, ?_, hlists, ?_⟩⟩
          · rw [taken_eraseIdx, htaken, List.eraseIdx_map]
          · exact fun e he => hpeers e (List.mem_of_mem_eraseIdx he)
          · rw [hsocks, taken_append] at hdistinct
            rw [taken_append, taken_eraseIdx]
            exact hdistinct.sublist ((List.eraseIdx_sublist _ _).append_right _)
          · simp only [List.length_eraseIdx_of_lt hi]
            omega

/-- The calls of a program that never has more than `most` transports open. -/
def OpenAtMost (p : Platform) (k₀ : Held) (most : ℕ) (ops : List TransportOp) : Prop :=
  ∀ past later c, ops = past ++ later → (Effect.forEach (TransportOp.effect p) past).run ⟨k₀, []⟩ = (.ok (), c) →
    c.live.length ≤ most

lemma Client.Owns.roomy {p : Platform} {c : Client} {k₀ : Held} (h : c.Owns k₀) {most : ℕ}
    (hlive : c.live.length ≤ most) (hroom : p.first + k₀.socks.length + most < p.fdSetSize) : c.held.Roomy p := by
  obtain ⟨own, hsocks, htaken, -⟩ := h.socks
  have hlen : own.length = c.live.length := by
    rw [← List.length_map (f := Prod.fst), ← List.length_map (f := Transport.fd)]
    exact congrArg List.length htaken
  rw [Held.Roomy, hsocks, List.length_append]
  omega

/-- **Connections are never leaked, closed twice or mixed up.**  Whatever the networks, over any number of
calls of `sd_transport_connect` and `sd_transport_close`, in any order, with no more transports open at a time
than an `fd_set` has bits for: no call does anything undefined, and what the process holds is what it held and
one connected socket and one handle for each transport not closed, all of them different; so when all are closed
it holds what it held. -/
theorem handles_own_sockets (p : Platform) {k₀ : Held} (hk : (taken k₀.socks).Nodup) {ops : List TransportOp}
    {most : ℕ} (hmost : OpenAtMost p k₀ most ops) (hroom : p.first + k₀.socks.length + most < p.fdSetSize) :
    ∃ c, (Effect.forEach (TransportOp.effect p) ops).run ⟨k₀, []⟩ = (.ok (), c) ∧ c.Owns k₀ ∧
      (c.live = [] → c.held = { k₀ with waited := c.held.waited }) := by
  have run : ∀ (later past : List TransportOp) (c : Client), ops = past ++ later →
      (Effect.forEach (TransportOp.effect p) past).run ⟨k₀, []⟩ = (.ok (), c) → c.Owns k₀ →
      ∃ c', (Effect.forEach (TransportOp.effect p) ops).run ⟨k₀, []⟩ = (.ok (), c') ∧ c'.Owns k₀ := by
    intro later
    induction later with
    | nil =>
        rintro past c rfl hpast h
        exact ⟨c, by rw [List.append_nil, hpast], h⟩
    | cons op later ih =>
        intro past c hops hpast h
        have hroomy := h.roomy (hmost past (op :: later) c hops hpast) hroom
        obtain ⟨c₁, hrun, h₁⟩ := op.keeps p h hroomy
        refine ih (past ++ [op]) c₁ (by rw [hops, List.append_assoc]; rfl) ?_ h₁
        rw [Effect.run_forEach_append hpast, Effect.forEach_cons, Effect.run_bind_ok hrun]
        rfl
  have hstart : (⟨k₀, []⟩ : Client).Owns k₀ := ⟨⟨[], rfl, rfl, by simp⟩, hk, rfl, rfl⟩
  obtain ⟨c, hrun, hc⟩ := run ops [] ⟨k₀, []⟩ rfl rfl hstart
  refine ⟨c, hrun, hc, ?_⟩
  intro hlive
  obtain ⟨⟨own, hsocks, htaken, -⟩, -, hlists, htransports⟩ := hc
  rw [hlive, List.map_nil] at htaken
  rw [List.map_eq_nil_iff.mp htaken] at hsocks
  rw [hlive] at htransports
  calc c.held = ⟨c.held.socks, c.held.lists, c.held.transports, c.held.waited⟩ := rfl
    _ = { k₀ with waited := c.held.waited } := by rw [hsocks, hlists, htransports]; rfl

/-- A platform with few descriptors. -/
def smallPlatform : Platform := ⟨0, 6⟩

/-- Two connections, closed in the order they were opened, and the same again. -/
def fourConnections : List TransportOp :=
  [.connect secondAnswers phoneHost 8765, .connect secondAnswers phoneHost 8765, .close 1, .close 0,
    .connect secondAnswers phoneHost 8765, .connect secondAnswers phoneHost 8765, .close 1, .close 0]

lemma openAtMost_fourConnections : OpenAtMost smallPlatform threeHeld 2 fourConnections := by
  have hall : ∀ n ∈ List.range 9,
      ((Effect.forEach (TransportOp.effect smallPlatform) (fourConnections.take n)).run ⟨threeHeld, []⟩).2.live.length
        ≤ 2 := by
    decide
  intro past later c hops hpast
  have htake : fourConnections.take past.length = past := by rw [hops, List.take_left]
  have hlen : past.length ≤ 8 := by
    have hle : past.length ≤ fourConnections.length := by rw [hops, List.length_append]; omega
    exact hle
  have hone := hall past.length (List.mem_range.mpr (by omega))
  rwa [htake, hpast] at hone

/-- More calls than there are descriptors. -/
theorem handles_own_sockets_four :
    ∃ c, (Effect.forEach (TransportOp.effect smallPlatform) fourConnections).run ⟨threeHeld, []⟩ = (.ok (), c) ∧
      c.Owns threeHeld ∧ (c.live = [] → c.held = { threeHeld with waited := c.held.waited }) :=
  handles_own_sockets smallPlatform (by decide) openAtMost_fourConnections (by decide)

end Sudonit
