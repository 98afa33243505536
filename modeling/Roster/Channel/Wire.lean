import Roster.Channel.Error

/-! # The far side of a channel

What the reads of a channel will give, how much its writes will take and how its flushes will end
are the far side's choice. A wire holds those choices in order, with the bytes that have been taken. -/

namespace Roster

/-- What reads get; more bytes than a read asks for stay for the next one. -/
inductive Arrival where
  | bytes (bs : List UInt8)
  | fails (e : ChannelError)
  deriving DecidableEq, Repr

/-- How a write ends: with at most so many of its bytes taken, or not at all. -/
inductive Acceptance where
  | upTo (n : Nat)
  | fails (e : ChannelError)
  deriving DecidableEq, Repr

/-- How a flush ends: it reaches the far side, or it finds the channel closed, or it fails. -/
inductive Flushing where
  | ends (reached : Bool)
  | fails (e : ChannelError)
  deriving DecidableEq, Repr

/-- Behind the last arrival the stream has ended; behind the last acceptance all is taken, and behind
the last flush each one reaches the far side. -/
structure Wire where
  arrivals : List Arrival
  acceptances : List Acceptance
  flushes : List Flushing
  sent : List UInt8
  deriving DecidableEq, Repr

namespace Wire

def ofArrivals (arrivals : List Arrival) : Wire := ⟨arrivals, [], [], []⟩

def weight : Arrival → Nat
  | .bytes bs => bs.length + 1
  | .fails _ => 1

/-- Grows smaller with every read that gives something. -/
def pending (w : Wire) : Nat := w.arrivals.foldr (fun a n => weight a + n) 0

/-- Up to `n` bytes, none of them at an end of the stream. -/
def read (n : Nat) (w : Wire) : Except ChannelError (List UInt8) × Wire :=
  match w.arrivals with
  | [] => (.ok [], w)
  | .fails e :: rest => (.error e, { w with arrivals := rest })
  | .bytes bs :: rest =>
    let later := match bs.drop n with
      | [] => rest
      | more => .bytes more :: rest
    (.ok (bs.take n), { w with arrivals := later })

theorem pending_read {n : Nat} {w v : Wire} {b : UInt8} {bs : List UInt8}
    (h : w.read n = (.ok (b :: bs), v)) : v.pending < w.pending := by
  obtain ⟨arrivals, acceptances, flushes, sent⟩ := w
  match arrivals with
  | [] => simp [read] at h
  | .fails e :: rest => simp [read] at h
  | .bytes cs :: rest =>
    simp only [read, Prod.mk.injEq, Except.ok.injEq] at h
    obtain ⟨htake, rfl⟩ := h
    have hlen : 0 < (cs.take n).length := by rw [htake]; simp
    rw [List.length_take] at hlen
    simp only [pending]
    split
    · simp [weight]
    · rename_i more _
      have hdrop : (cs.drop n).length < cs.length := by rw [List.length_drop]; omega
      simp only [List.foldr_cons, weight]
      omega

/-- Offers bytes and says how many were taken. -/
def write (bs : List UInt8) (w : Wire) : Except ChannelError Nat × Wire :=
  match w.acceptances with
  | [] => (.ok bs.length, { w with sent := w.sent ++ bs })
  | .fails e :: rest => (.error e, { w with acceptances := rest })
  | .upTo n :: rest =>
    (.ok (min n bs.length), { w with acceptances := rest, sent := w.sent ++ bs.take n })

/-- Writes until nothing is left; a write that takes nothing ends it. -/
def writeAll (bs : List UInt8) (w : Wire) : Except ChannelError Unit × Wire :=
  match bs with
  | [] => (.ok (), w)
  | b :: rest =>
    match w.write (b :: rest) with
    | (.error e, after) => (.error e, after)
    | (.ok 0, after) => (.error (.transport .writeZero), after)
    | (.ok (n + 1), after) => writeAll (rest.drop n) after
termination_by bs.length
decreasing_by simp only [List.length_drop, List.length_cons]; omega

/-- Hands on what has been taken, and says whether it reached the far side. -/
def flush (w : Wire) : Except ChannelError Bool × Wire :=
  match w.flushes with
  | [] => (.ok true, w)
  | .ends reached :: rest => (.ok reached, { w with flushes := rest })
  | .fails e :: rest => (.error e, { w with flushes := rest })

end Wire

end Roster
