import Avalant.Exchange.DualTrack
import Avalant.Lib.Go

/-!
The orderbook adapter of OKX, for futures and spot.

The channel `books` brings depth, `bbo-tbt` brings best prices, both of them in each frame.
-/

namespace Avalant

namespace Okx

open Exchange
open Gate (BboLevel)

structure Message where
  event : String := ""
  channel : String := ""
  instId : String := ""
  action : String := ""
  data : List Rows := []

/-- One side of the best prices. A side without a price, or with size 0, is gone. -/
def bestOf (rows : List (List (Option ℚ))) : ℚ × ℚ :=
  match parseLvl rows with
  | some (px, sz) => if sz = 0 then (0, 0) else (px, sz)
  | none => (0, 0)

/-- `applyBBO`: both sides are replaced. -/
def setBest (_ : Bool) (rows : Rows) (_ : BboLevel) : BboLevel :=
  let bid := bestOf rows.bids
  let ask := bestOf rows.asks
  ⟨bid.1, bid.2, ask.1, ask.2⟩

/-- The checks of `Parse`. -/
def read (instSuffix : String) (msg : Message) : Option (String × Update) :=
  let isDepth := msg.channel = "books"
  let isBBO := msg.channel = "bbo-tbt"
  if msg.event ≠ "" then none
  else if ¬isDepth ∧ ¬isBBO then none
  else if !Go.hasSuffix msg.instId instSuffix then none
  else
    match msg.data with
    | [] => none
    | rows :: _ =>
        let token := Go.trimSuffix msg.instId instSuffix
        if isBBO then some (token, .best true rows)
        else some (token, .depth (msg.action = "snapshot") rows)

/-- The suffix is `-USDT-SWAP` for futures and `-USDT` for spot. -/
def adapter (instSuffix : String) : TwoTrack Message where
  read := read instSuffix
  setBest := setBest
  merge := merge

end Okx

end Avalant
