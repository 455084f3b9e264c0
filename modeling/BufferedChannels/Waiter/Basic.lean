import BufferedChannels.Ownership

/-!
# Waiter/Basic — ways to wait until a descriptor is ready

A channel never blocks by itself.  It waits through a `Waiter`: either the calling thread sits in
`poll`, or a scheduler parks the task.  Waiters also keep account of who owns a descriptor: a
polling waiter in a registry, a scheduler by its own means.
-/

namespace BufferedChannels

/-- **A way to wait.** -/
inductive Waiter where
  /-- The thread polls; owners are noted in a registry. -/
  | polling (scope : Scope)
  /-- A scheduler waits; it is told of owners if it wants to be. -/
  | scheduled (notified : Bool)
  deriving DecidableEq

end BufferedChannels
