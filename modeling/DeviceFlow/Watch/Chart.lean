import DeviceFlow.Decimal.Rounded
import DeviceFlow.Watch.Timeline

/-!
# Charts

A timeline drawn with characters: a row for each iteration, with a bar that shows when it ran
in the time from the beginning of the timeline until now.
-/

namespace DeviceFlow

open Decimal (Rounded)

/-- The number of characters of a label. -/
def labelWidth : Nat := 12

/-- The number of characters of the column for bars. -/
def barWidth : Nat := 50

/-- Fills a text with blanks up to a width. -/
def padEnd (width : Nat) (cs : List Char) : List Char :=
  cs ++ List.replicate (width - cs.length) ' '

/-- The label of a row: the id of the step, cut or filled to the width of labels. -/
def rowLabel (stepId : String) : List Char :=
  let cs := stepId.toList
  if cs.length ≤ labelWidth then padEnd labelWidth cs
  else cs.take (labelWidth - 3) ++ ['.', '.', '.']

/-- The number of characters for a time, given the number of characters for a millisecond. -/
def scaled (ms : Nat) (scale : Rounded) : Nat :=
  ((Rounded.ofNat ms).mul scale).floor

/-- The number of characters for a millisecond. -/
def chartScale (totalMs : Nat) : Rounded :=
  (Rounded.ofNat barWidth).div (Rounded.ofNat totalMs)

/-- The bar of an iteration, which has at least one mark. -/
def rowBar (scale : Rounded) (s : Span) : List Char :=
  List.replicate (scaled s.startMs scale) ' ' ++
    List.replicate (max (scaled (s.endMs - s.startMs) scale) 1) (if s.success then '#' else 'x')

/-- The row of an iteration. -/
def chartRow (scale : Rounded) (s : Span) : List Char :=
  rowLabel s.stepId ++ [' ', '|'] ++ padEnd barWidth (rowBar scale s) ++
    s!"| ({s.endMs - s.startMs} ms)\n".toList

/-- The chart of a timeline up to now. -/
def Timeline.chart (t : Timeline) (nowMs : Nat) : String :=
  let title := "\nExecution Timeline:\n\n"
  let total := t.elapsed nowMs
  if total = 0 then title
  else
    title ++ String.ofList (t.spans.flatMap (chartRow (chartScale total))) ++
      s!"\nTotal: {total} ms\n"

end DeviceFlow
