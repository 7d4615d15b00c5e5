import NmeaReceiver.Fix.Snapshot

/-! The poller: at each tick it looks at the fix and then asks for the next poll. Updates may
come between the two. It reports the fix when a poll of its own has been answered. -/
namespace NmeaReceiver.Command

structure Poller where
  fix : Fix.State
  polled : Bool
  reports : List Fix.State
  deriving DecidableEq, Repr

namespace Poller

def new : Poller := ⟨.empty, false, []⟩

def answered (p : Poller) : Bool := p.polled && !p.fix.waiting

def look (p : Poller) : Poller :=
  if p.answered then { p with reports := p.fix :: p.reports } else p

def ask (p : Poller) : Poller :=
  let (accepted, fix) := p.fix.requestPoll
  { p with fix := fix, polled := p.polled || accepted }

def tick (p : Poller) : Poller := p.look.ask

def ingest (clock : Fix.Clock) (p : Poller) (line : List Char) : Poller :=
  { p with fix := p.fix.ingest clock line }

end Poller
end NmeaReceiver.Command
