import StreamControl.Text.Record

namespace StreamControl

/-- How many buffered inbound items tell the producer to back off, unless a
stream asks for another mark. -/
def defaultInboxMark : Nat := 5

def defaultOutboxMark : Nat := 16

structure Options where
  inboxMark : Nat
  outboxMark : Nat
  /-- The stream is a tunnel: its end carries no trailers. -/
  connect : Bool
  startPaused : Bool
  deriving DecidableEq

namespace Options

def standard : Options := ⟨defaultInboxMark, defaultOutboxMark, false, false⟩

def withInboxMark (o : Options) (n : Nat) : Options := { o with inboxMark := n }

def withOutboxMark (o : Options) (n : Nat) : Options := { o with outboxMark := n }

def withConnect (o : Options) (b : Bool) : Options := { o with connect := b }

def withStartPaused (o : Options) (b : Bool) : Options := { o with startPaused := b }

def describe (o : Options) : String :=
  Text.record "StreamConfig" [("inbound_high_watermark", toString o.inboxMark),
    ("outbound_high_watermark", toString o.outboxMark), ("connect", Text.bool o.connect),
    ("start_paused", Text.bool o.startPaused)]

end Options

end StreamControl
