import BoundSql.Query.Basic

/-!
# Putting windows together
-/

namespace BoundSql.Window

/-- One more expression that rows of a partition share. -/
def partitionBy (w : Window) (e : Expr) : Window :=
  { w with partitionKeys := w.partitionKeys ++ [e] }

/-- One more sort key. -/
def orderBy (w : Window) (o : OrderItem) : Window := { w with order := w.order ++ [o] }

/-- Count over this frame. -/
def withFrame (w : Window) (f : Frame) : Window := { w with frame := some f }

/-- The window is the whole result. -/
def isEmpty (w : Window) : Bool := w.partitionKeys.isEmpty && w.order.isEmpty && w.frame.isNone

end BoundSql.Window
