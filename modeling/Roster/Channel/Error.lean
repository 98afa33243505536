/-! # Failures of a channel -/

namespace Roster

/-- A failure of the transport below a channel. -/
inductive TransportFault where
  | writeZero
  | brokenPipe
  | other (text : String)
  deriving DecidableEq, Repr

def TransportFault.message : TransportFault → String
  | .writeZero => "write zero"
  | .brokenPipe => "broken pipe"
  | .other text => text

inductive ChannelError where
  | connect (address reason : String)
  | timeout (operation peer : String) (milliseconds : UInt64)
  | handshake (peer reason : String)
  | untrusted (peer authenticator : String)
  | closed
  | transport (fault : TransportFault)
  deriving DecidableEq, Repr

/-- A time in seconds with as many decimals as it has, or in milliseconds below a second. -/
def durationText (milliseconds : UInt64) : String :=
  let seconds := milliseconds.toNat / 1000
  let rest := milliseconds.toNat % 1000
  if seconds = 0 then (if rest = 0 then "0ns" else s!"{rest}ms")
  else
    let digits := [rest / 100, rest / 10 % 10, rest % 10].map Nat.digitChar
    let shown := (digits.reverse.dropWhile (· == '0')).reverse
    if shown.isEmpty then s!"{seconds}s"
    else
      let decimals := String.ofList shown
      s!"{seconds}.{decimals}s"

namespace ChannelError

def code : ChannelError → String
  | .connect .. => "connect_failed"
  | .timeout .. => "timeout"
  | .handshake .. => "handshake_failed"
  | .untrusted .. => "untrusted"
  | .closed => "closed"
  | .transport _ => "io"

/-- Only a connection that did not come about, or that took too long, may be tried again. -/
def isRetryable : ChannelError → Bool
  | .connect .. | .timeout .. => true
  | _ => false

def message : ChannelError → String
  | .connect address reason => s!"failed to connect to {address}: {reason}"
  | .timeout operation peer milliseconds =>
    let duration := durationText milliseconds
    s!"{operation} with {peer} timed out after {duration}"
  | .handshake peer reason => s!"secure transport handshake with {peer} failed: {reason}"
  | .untrusted peer authenticator => s!"peer {peer} rejected by the {authenticator} trust policy"
  | .closed => "channel closed"
  | .transport fault => s!"transport error: {fault.message}"

end ChannelError

end Roster
