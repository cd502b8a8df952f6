/-!
# Counting semaphores

The operations of the kernel's semaphores on a count. A pend that finds no count
blocks, so it is partial; a post to a task that already waits is a post followed by
that task's pend, because the task is made ready at once. `OSSemSet` replaces the
count and forgets every post before it. The count is a sixteen-bit word and a post
at its end is refused.
-/

namespace UcosProxy.Semaphore

/-- `OSSemPost` -/
def osSemPost (count : Nat) : Nat := if count < 65535 then count + 1 else count

/-- `OSSemPend`, when it does not block. A count of zero blocks, and the caller takes no
step then. -/
def osSemPend : Nat → Option Nat
  | 0 => none
  | count + 1 => some count

/-- `OSSemSet`, with no task waiting. -/
def osSemSet (_ : Nat) (value : Nat) : Nat := value

/-- A posted semaphore wakes a pend. -/
theorem osSemPost_pos (count : Nat) : 0 < osSemPost count := by
  unfold osSemPost
  split <;> omega

/-- A pend passes exactly when something was posted. -/
theorem osSemPend_eq_some_iff (count next : Nat) :
    osSemPend count = some next ↔ count = next + 1 := by
  cases count with
  | zero => simp [osSemPend]
  | succ count => simp [osSemPend]

end UcosProxy.Semaphore
