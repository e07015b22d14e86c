import Intercom.Text.RangeTable

/-!
# Joining

How a character of a cursive script joins its neighbours.
-/

namespace Intercom.Text

/-- The characters that join in some way, by the number of the way. -/
def joinings : RangeTable :=
  .ofText
    "4t.0.4 gi.33.4 7n.6.4 7b.18.4 1.0.4 1.1.4 1.1.4 1.0.4 20.a.4 1.0.4 3.0.1 1.3.3 0.0.1 0.0.3
    0.0.1 0.0.3 0.4.1 0.3.3 0.c.1 1.6.1 0.0.3 0.1.1 0.k.4 e.1.1 0.0.4 0.2.3 1.2.3 0.f.1 0.h.3
    0.11.1 0.0.3 0.1.1 0.8.3 0.0.1 0.0.3 0.0.1 0.0.3 0.1.1 0.1.3 1.0.3 0.6.4 2.5.4 2.1.4 1.3.4
    0.1.3 a.2.1 2.0.1 f.0.4 0.0.3 0.0.4 0.2.1 0.4.3 0.3.1 0.0.3 0.8.1 0.0.3 0.0.1 0.0.3 0.0.1
    0.0.3 0.1.1 0.0.3 0.q.4 2.0.3 0.a.1 0.2.3 0.e.1 0.1.3 0.3.1 0.0.3 0.0.1 0.1.3 0.2.1 0.1.3
    0.5.1 12.a.4 p.w.1 0.8.4 9.0.4 o.3.4 1.8.4 1.2.4 1.4.4 i.0.3 0.4.1 0.1.3 0.0.1 0.0.3 0.9.1
    0.0.3 0.0.1 0.2.3 0.2.4 4.0.1 1.3.1 1.0.3 0.0.1 0.1.3 5.i.3 3.0.1 2.4.1 0.0.3 0.0.1 7.8.4
    0.9.1 0.2.3 1.0.3 0.1.1 0.1.3 0.5.1 0.0.3 0.e.1 1.n.4 1.v.4 1j.0.4 1.0.4 4.7.4 4.0.4 3.6.4
    a.1.4 t.0.4 1m.0.4 4.3.4 8.0.4 k.1.4 q.0.4 2.1.4 1l.0.4 4.1.4 4.1.4 2.2.4 3.0.4 u.1.4 3.0.4
    b.1.4 1l.0.4 4.4.4 1.1.4 4.0.4 k.1.4 m.5.4 1.0.4 1m.0.4 2.0.4 1.3.4 8.0.4 7.1.4 b.1.4 u.0.4
    1p.0.4 c.0.4 1e.0.4 3.0.4 1j.0.4 1.2.4 5.2.4 1.3.4 7.1.4 b.1.4 t.0.4 1m.0.4 2.0.4 6.0.4 5.1.4
    k.1.4 s.1.4 1l.1.4 4.3.4 8.0.4 k.1.4 t.0.4 20.0.4 7.2.4 1.0.4 2i.0.4 2.6.4 c.7.4 2q.0.4 2.8.4
    b.6.4 21.1.4 r.0.4 1.0.4 1.0.4 1j.d.4 1.4.4 1.1.4 5.a.4 1.z.4 9.0.4 2u.3.4 1.5.4 1.1.4 2.1.4
    p.1.4 4.2.4 g.3.4 d.0.4 2.1.4 6.0.4 f.0.4 jj.2.4 qa.2.4 t.1.4 u.1.4 u.1.4 1s.1.4 1.6.4 8.0.4
    2.a.4 9.0.4 15.0.1 3.2.4 1.0.4 g.2g.1 c.1.4 0.x.1 0.0.4 0.0.1 39.2.4 4.1.4 9.0.4 6.2.4 63.1.4
    2.0.4 1m.0.4 1.6.4 1.0.4 1.0.4 2.7.4 6.9.4 2.0.4 1c.19.4 2.b.4 k.3.4 1c.0.4 1.4.4 1.0.4 5.0.4
    14.8.4 c.1.4 w.3.4 2.1.4 1.2.4 1k.0.4 1.1.4 3.0.4 1.2.4 1m.7.4 2.1.4 48.2.4 1.c.4 1.6.4 4.0.4
    6.0.4 3.1.4 5i.1r.4 ej.0.4 2.1.4 q.4.4 1d.4.4 5.5.4 2o.w.4 2da.2.4 3x.0.4 2o.v.4 fe.3.4 2z.1.4
    n9w.3.4 1.9.4 w.1.4 28.1.4 7k.0.4 3.0.4 4.0.4 p.1.4 5.0.4 j.1d.1 0.0.2 29.1.4 q.h.4 d.0.4
    12.7.4 p.a.4 1a.2.4 1c.0.4 2.3.4 2.1.4 13.0.4 1v.5.4 2.1.4 2.1.4 c.0.4 8.0.4 1b.0.4 1f.0.4
    1.2.4 2.1.4 5.1.4 1.0.4 16.1.4 8.0.4 6m.0.4 2.0.4 4.0.4 fn4.0.4 kh.f.4 g.f.4 5r.0.4 6x.2.4
    e9.0.4 6a.0.4 45.4.4 1ae.2.4 1.1.4 5.3.4 14.2.4 4.0.4 3k.4.1 0.0.3 1.0.3 1.1.3 2.0.2 0.4.3
    0.3.1 0.0.2 0.4.1 0.0.3 0.2.1 0.0.3 2.0.3 0.1.4 4.3.1 0.0.3 40.0.1 0.0.3 0.0.1 0.2.3 0.2.1
    0.0.3 0.1.1 0.0.3 0.0.1 0.1.3 0.0.1 0.0.3 n.3.3 0.1.1 9d.0.2 0.w.1 0.0.3 0.0.1 0.3.4 1t.4.4
    8t.1.4 l.0.3 0.1.1 1.1.1 1e.5.4 1c.2.1 0.0.3 0.g.1 1.a.4 0.2.1 0.0.3 r.3.1 0.1.3 0.b.1 0.3.4
    16.0.1 1.1.1 0.2.3 1.0.1 0.1.3 0.1.1 0.0.3 0.1.1 1.0.1 0.1.3 0.0.1 4.0.3 0.0.1 0.0.2 1h.0.4
    1i.e.4 15.0.4 2.1.4 a.2.4 1d.3.4 2.1.4 7.0.4 1p.2.4 10.4.4 1.7.4 1q.0.4 c.1.4 1g.8.4 a.3.4
    2.0.4 2n.2.4 2.0.4 1.1.4 6.0.4 2.0.4 4d.0.4 3.7.4 l.1.4 1l.1.4 3.0.4 11.6.4 3.4.4 1y.5.4 d.0.4
    1.0.4 1.0.4 e.1.4 2d.7.4 2.2.4 1.0.4 n.0.4 2c.5.4 1.0.4 4.1.4 1.1.4 6m.3.4 6.1.4 1.1.4 r.1.4
    2d.7.4 2.0.4 1.1.4 2y.0.4 1.0.4 2.5.4 1.0.4 2t.0.4 1.0.4 2.3.4 1.4.4 77.8.4 1.1.4 74.1.4 1.0.4
    4.0.4 40.3.4 2.1.4 4.0.4 w.9.4 14.5.4 2.3.4 8.0.4 9.5.4 2.2.4 1a.c.4 1.1.4 5i.0.4 1.2.4 1.0.4
    5l.6.4 1.5.4 1.0.4 2a.l.4 2.6.4 1.1.4 1.1.4 3e.5.4 3.0.4 1.1.4 1.6.4 1.0.4 20.1.4 3.0.4 1.0.4
    9n.1.4 b.1.4 1g.4.4 5.0.4 1.0.4 n.0.4 445.g.4 6.e.4 8ug.b.4 3.2.4 1xc.4.4 1n.6.4 t4.0.4 1r.3.4
    29.0.4 f5k.1.4 1.3.4 3mk.19.4 2.m.4 f4.2.4 9.f.4 2.6.4 u.3.4 44.2.4 1iz.1i.4 4.1d.4 8.0.4
    e.0.4 m.4.4 1.e.4 11s.6.4 1.g.4 2.6.4 1.1.4 1.4.4 2s.0.4 4g.6.4 af.0.4 1p.3.4 e4.3.4 72.1.4
    6r.0.4 2.0.4 7.1.4 5.0.4 d6.6.4 15.1v.1 0.7.4 gzat.0.4 u.2n.4 3k.6n.4"

/-- How a character joins its neighbours. -/
inductive Joining where
  | none
  | both
  | left
  | right
  | transparent
deriving DecidableEq

/-- The way of a number in the table. -/
def Joining.ofCode : Nat → Joining
  | 1 => .both
  | 2 => .left
  | 3 => .right
  | 4 => .transparent
  | _ => .none

/-- How a character joins its neighbours. -/
def joining (c : Char) : Joining :=
  .ofCode (joinings.valueOr 0 c)

end Intercom.Text
