import BufferedChannels.Channel.Lifecycle
import BufferedChannels.Channel.Stream

/-!
# Session/Command — what a program does with channels, as data

A program's dealings with the library are **commands**: channels are begun under a name, operated on
and ended, and beside them there are waits, registries of owners, single descriptors and the log.
Every command has an **answer**.
-/

namespace BufferedChannels

/-- **How a channel is to begin.** -/
inductive Opening where
  | openPath (path : String) (flags : Flags) (mode : Nat)
  | create (path : String)
  | openConfigured (path : String) (flags : Flags) (mode : Nat) (config : ConfigSource)
      (waiter : Waiter)
  | adopt (fd : Int)
  | adoptConfigured (fd : Int) (config : ConfigSource) (waiter : Waiter)

/-- **A deadline to be made** when a command runs. -/
inductive DeadlineSource where
  | never
  /-- So many nanoseconds after the command begins. -/
  | after (duration : Nat)
  | ofInstant (instant : Nat)

/-- **An operation on a channel.** -/
inductive Operation where
  | read (len : Nat) (deadline : DeadlineSource)
  | readBetween (len low high : Nat) (deadline : DeadlineSource)
  | write (data : Bytes) (deadline : DeadlineSource)
  | flush (deadline : DeadlineSource)
  | seek (position : Nat)
  | tell
  | size
  | info
  | readSome (len : Nat)
  | writeAll (data : Bytes)
  | flushAll
  | reposition (target : SeekTarget)

/-- **How a channel is to end.** -/
inductive Ending where
  | close | detach | drop
  deriving DecidableEq

/-- A question about owners, or a change of them. -/
inductive OwnershipQuery where
  | claim | release | contains | owners | size
  deriving DecidableEq

/-- **A command that is about no channel.** -/
inductive Query where
  | wait (fd : Int) (direction : Direction) (deadline : DeadlineSource) (scope : Scope)
  | ownership (query : OwnershipQuery) (fd : Int) (scope : Scope)
  | openPath (path : String) (flags : Flags) (mode : Nat)
  | read (fd : Int) (len : Nat)
  | write (fd : Int) (data : Bytes)
  | close (fd : Int)
  | seekTo (fd : Int) (position : Nat)
  | position (fd : Int)
  | seekEnd (fd : Int)
  | kindOf (fd : Int)
  | neverBlocks (fd : Int)
  | makeNonblocking (fd : Int)
  | setLogLevel (level : Log.Level)
  | setLogTime (enabled : Bool)
  | printConfig (config : ConfigSource)

/-- **A command.** -/
inductive Command where
  /-- Begins a channel under a name; a channel that has the name is dropped first. -/
  | begin (name : String) (opening : Opening)
  | operate (name : String) (operation : Operation)
  | finish (name : String) (ending : Ending)
  | query (query : Query)
  /-- Drops every channel, in the order of their names. -/
  | dropAll

/-- **The answer to a command.** -/
inductive Answer where
  | ok
  | begun (result : Except ChannelError (Int × Kind))
  | reading (reading : Reading)
  | count (result : Except ChannelError Nat)
  | finished (result : Except ChannelError Unit)
  | info (fd : Int) (kind : Kind) (capacity : Nat) (ended : Bool)
  | streamBytes (result : Except StandardError Bytes)
  | streamCount (result : Except StandardError Nat)
  | streamDone (result : Except StandardError Unit)
  | closed
  | detached (fd : Int)
  | dropped
  | waited (outcome : WaitOutcome)
  | truth (value : Bool)
  | number (value : Nat)
  | extent (size : Nat) (isEmpty : Bool)
  | descriptor (result : Except ChannelError Int)
  | transferred (outcome : Attempt Bytes)
  | sent (outcome : Attempt Nat)
  | closing (result : Except Errno Unit)
  | kind (result : Except ChannelError Kind)
  /-- The bytes that the outside took, in packed form. -/
  | collected (bytes : ByteArray)
  /-- The command names a channel that is not there. -/
  | noChannel

end BufferedChannels
