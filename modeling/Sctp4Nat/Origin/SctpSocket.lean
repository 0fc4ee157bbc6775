import Sctp4Nat.Java.Basic

/-! # `SctpSocket`: fields and synchronized blocks

The Java object around one native socket. `lockPtr`, `unlockPtr` and the block inside
`closeNative` are the methods' `synchronized (this)` blocks; what the methods do outside the
monitor is part of the thread programs (`Origin/PtrProtocol.lean`). -/

namespace Sctp4Nat

/-- A native pointer as Java sees it: a `long`, `0` for none. -/
abbrev Ptr := Nat

abbrev Bytes := List UInt8

structure SctpSocket where
  ptr : Ptr
  localPort : Int
  closed : Bool := false
  ptrLockCount : Int := 0
  isAccepted : Bool := false
  deriving DecidableEq, Repr

namespace SctpSocket

/-- The constructor. -/
def create (ptr : Ptr) (localPort : Int) : Except Throwable SctpSocket :=
  if ptr = 0 then .error (.nullPointerException "ptr") else .ok { ptr, localPort }

def lockPtr : Java SctpSocket Ptr := do
  let so ← get
  if so.closed then
    throw (.ioException "SctpSocket is closed!")
  else if so.ptr = 0 then
    throw (.ioException "SctpSocket is closed!")
  else
    set { so with ptrLockCount := so.ptrLockCount + 1 }
    pure so.ptr

/-- The result is the pointer to hand to `Sctp.closeSocket` after the block, `0` for none. -/
def unlockPtr : Java SctpSocket Ptr := do
  let so ← get
  let ptrLockCount := so.ptrLockCount - 1
  if ptrLockCount < 0 then
    throw (.runtimeException "Unbalanced SctpSocket#unlockPtr() method invocation!")
  else if so.closed && ptrLockCount == 0 then
    set { so with ptrLockCount, ptr := 0 }
    pure so.ptr
  else
    set { so with ptrLockCount }
    pure 0

/-- The block of `closeNative`, with the pointer to hand to `Sctp.closeSocket` as its result. -/
def closeNativeBlock : Java SctpSocket Ptr := do
  let so ← get
  if so.ptrLockCount = 0 then
    set { so with ptr := 0 }
    pure so.ptr
  else
    pure 0

/-- The argument check of `sendNative` and `onConnIn`, with Java's wrapping `int` addition. -/
def outOfRange (data : Bytes) (offset len : Int32) : Bool :=
  offset < 0 || len ≤ 0 || offset + len > Int32.ofNat data.length

/-- The exception of a failed argument check; `name` is the buffer's name in the message. -/
def rangeException (name : String) (data : Bytes) (offset len : Int32) : Throwable :=
  .illegalArgumentException ("o: " ++ toString offset ++ " l: " ++ toString len ++
    " " ++ name ++ " l: " ++ toString data.length)

theorem lockPtr_closed {so : SctpSocket} (h : so.closed = true ∨ so.ptr = 0) :
    lockPtr.run so = (.error (.ioException "SctpSocket is closed!"), so) := by
  rcases h with h | h <;> cases hc : so.closed <;> simp_all [lockPtr, Java.run_bind]

theorem lockPtr_open {so : SctpSocket} (hc : so.closed = false) (hp : so.ptr ≠ 0) :
    lockPtr.run so = (.ok so.ptr, { so with ptrLockCount := so.ptrLockCount + 1 }) := by
  simp [lockPtr, Java.run_bind, hc, hp]

/-- Of several readers, one leaves and the pointer stays. -/
theorem unlockPtr_shared {so : SctpSocket} (h : 0 < so.ptrLockCount)
    (hd : so.closed = false ∨ so.ptrLockCount ≠ 1) :
    unlockPtr.run so = (.ok 0, { so with ptrLockCount := so.ptrLockCount - 1 }) := by
  have h0 : ¬ so.ptrLockCount - 1 < 0 := by omega
  have h1 : so.closed = true → ¬ so.ptrLockCount - 1 = 0 := by
    rintro hc; rw [hc] at hd; simp at hd; omega
  simp only [unlockPtr, Java.run_bind, Java.run_get, if_neg h0, Bool.and_eq_true, beq_iff_eq]
  rw [if_neg fun hh => h1 hh.1 hh.2]
  rfl

theorem unlockPtr_unbalanced {so : SctpSocket} (h : so.ptrLockCount ≤ 0) :
    unlockPtr.run so =
      (.error (.runtimeException "Unbalanced SctpSocket#unlockPtr() method invocation!"), so) := by
  have h0 : so.ptrLockCount - 1 < 0 := by omega
  simp only [unlockPtr, Java.run_bind, Java.run_get, if_pos h0, Java.run_throw]

/-- The last reader of a closed socket takes the pointer to close it. -/
theorem unlockPtr_last {so : SctpSocket} (h : so.ptrLockCount = 1) (hc : so.closed = true) :
    unlockPtr.run so = (.ok so.ptr, { so with ptrLockCount := 0, ptr := 0 }) := by
  simp [unlockPtr, Java.run_bind, h, hc]

theorem closeNativeBlock_free {so : SctpSocket} (h : so.ptrLockCount = 0) :
    closeNativeBlock.run so = (.ok so.ptr, { so with ptr := 0 }) := by
  simp [closeNativeBlock, Java.run_bind, h]

theorem closeNativeBlock_locked {so : SctpSocket} (h : so.ptrLockCount ≠ 0) :
    closeNativeBlock.run so = (.ok 0, so) := by
  simp [closeNativeBlock, Java.run_bind, h]

end SctpSocket

end Sctp4Nat
