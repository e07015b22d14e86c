import Intercom.Text.RangeTable

/-!
# Combining classes

The canonical combining class of a character. Marks of different classes do not disturb one
another, so their order says nothing; a character of class 0 starts a group of its own.
-/

namespace Intercom.Text

/-- The characters of another class than 0. -/
def combiningClasses : RangeTable :=
  .ofText
    "lc.k.6e 0.0.6g 0.3.64 0.0.6g 0.0.60 0.4.64 0.1.5m 0.3.64 0.1.5m 0.a.64 0.4.1 0.3.64 0.7.6e
    0.0.6o 0.0.6e 0.2.64 0.2.6e 0.1.64 1.2.6e 0.3.64 0.0.6e 0.0.6g 0.1.64 0.0.6e 0.0.6h 0.1.6i
    0.0.6h 0.1.6i 0.0.6h 0.c.6e 7n.4.6e 7d.0.64 0.3.6e 0.0.64 0.2.6e 0.0.66 0.0.64 0.5.6e 0.5.64
    0.1.6e 0.0.64 0.1.6e 0.0.66 0.0.6c 0.0.6e 0.0.a 0.0.b 0.0.c 0.0.d 0.0.e 0.0.f 0.0.g 0.0.h
    0.0.i 0.1.j 0.0.k 0.0.l 0.0.m 1.0.n 1.0.o 0.0.p 1.0.6e 0.0.64 1.0.i 20.7.6e 0.0.u 0.0.v 0.0.w
    1c.0.r 0.0.s 0.0.t 0.0.u 0.0.v 0.0.w 0.0.x 0.0.y 0.1.6e 0.1.64 0.4.6e 0.0.64 0.1.6e 0.0.64
    g.0.z 2t.6.6e 2.3.6e 0.0.64 0.0.6e 2.1.6e 1.0.64 0.1.6e 0.0.64 z.0.10 u.0.6e 0.0.64 0.1.6e
    0.0.64 0.1.6e 0.2.64 0.0.6e 0.1.64 0.0.6e 0.0.64 0.2.6e 0.0.64 0.0.6e 0.0.64 0.0.6e 0.0.64
    0.0.6e 0.0.64 0.1.6e 4g.6.6e 0.0.64 0.0.6e 9.0.64 o.3.6e 1.8.6e 1.2.6e 1.4.6e 17.2.64 1n.1.6e
    0.2.64 0.3.6e 16.4.6e 0.4.64 0.d.6e 1.0.64 0.1.6e 0.0.64 0.1.6e 0.0.64 0.2.6e 0.2.64 0.0.r
    0.0.s 0.0.t 0.2.6e 0.0.64 0.1.6e 0.1.64 0.4.6e 1o.0.7 g.0.9 3.0.6e 0.0.64 0.1.6e 2v.0.7 g.0.9
    1c.0.6e 1p.0.7 g.0.9 32.0.7 g.0.9 32.0.7 g.0.9 3j.0.9 32.0.7 g.0.9 7.0.2c 0.0.2j 2t.0.7 g.0.9
    31.1.9 g.0.9 3g.0.9 31.1.2v 0.0.9 d.3.2z 30.1.3a 0.0.9 d.3.3e 24.1.64 r.0.64 1.0.64 1.0.60
    1j.0.3l 0.0.3m 1.0.3o 5.3.3m 2.0.3m 1.1.6e 0.0.9 1.1.6e 1q.0.64 34.0.7 1.1.9 2a.0.64 jz.2.6e
    qc.1.9 u.0.9 4d.0.9 a.0.6e 5n.0.6c 3z.0.66 0.0.6e 0.0.64 63.0.6e 0.0.64 1z.0.9 k.7.6e 2.0.64
    1c.4.6e 0.5.64 0.1.6e 0.0.64 1.1.64 0.1.6e 0.1.64 0.4.6e 0.0.64 0.h.6e 0.0.64 2.5.6e 0.0.64
    0.3.6e 0.0.6i 20.0.7 f.0.9 12.0.6e 0.0.64 0.6.6e 1i.1.9 1m.0.7 b.1.9 1v.0.7 48.2.6e 1.0.1
    0.4.64 0.1.6e 0.3.64 0.0.6e 1.6.1 4.0.64 6.0.6e 3.1.6e 5i.1.6e 0.0.64 0.6.6e 0.0.64 0.1.6e
    0.0.6i 0.0.5y 0.0.64 0.0.5m 0.10.6e 0.0.6g 0.1.6c 0.0.64 0.0.62 0.0.6e 0.0.6h 0.0.64 0.0.6e
    0.0.64 k0.1.6e 0.1.1 0.3.6e 0.2.1 0.1.6e 4.0.6e 3.1.1 0.0.6e 0.0.64 0.0.6e 0.1.1 0.3.64 0.0.6e
    2da.2.6e 3x.0.9 2o.v.6e fe.0.62 0.0.6c 0.0.6g 0.0.66 0.1.68 2x.1.8 n9w.0.6e 4.9.6e w.1.6e
    28.1.6e 7o.0.9 11.0.9 47.0.9 r.h.6e 1l.2.64 11.0.9 2n.0.7 c.0.9 6n.0.6e 1.1.6e 0.0.64 2.1.6e
    5.1.6e 1.0.6e 1g.0.9 6u.0.9 fn4.0.q ld.6.6e 0.6.64 0.1.6e r1.0.64 6a.0.64 45.4.6e 1aq.0.64
    1.0.6e 14.0.6e 0.0.1 0.0.64 4.0.9 4l.0.6e 0.0.64 fx.3.6e 1t.4.6e 8t.1.6e 25.1.64 1.2.64
    1y.1.64 0.2.6e 0.0.64 0.0.6e 0.3.64 1d.0.6e 0.0.64 0.0.6e 0.0.64 5c.0.9 15.0.9 e.0.9 1l.0.9
    0.0.7 1x.2.6e 1c.1.9 1q.0.7 24.0.9 9.0.7 2y.0.9 0.0.7 4y.0.7 0.0.9 28.1.7 g.0.9 o.6.6e 3.4.6e
    2h.2.9 35.0.9 3.0.7 n.0.6e 2r.0.9 0.0.7 6z.0.9 0.0.7 3i.0.9 3a.0.9 0.0.7 37.0.9 7h.0.9 0.0.7
    76.1.9 4.0.7 4c.0.9 2b.0.9 i.0.9 29.0.9 bp.0.9 76.0.7 1.1.9 29.0.9 bt.1.9 d0s.0.9 1xc.4.1
    1n.6.6e xl.1.6 f58.0.1 43q.1.60 0.2.1 3.0.6a 0.4.60 8.7.64 2.4.6e 0.1.64 u.3.6e 44.2.6e
    2pn.6.6e 1.g.6e 2.6.6e 1.1.6e 1.4.6e 2s.0.6e 4g.6.6e af.0.6e 1p.3.6e e4.1.6g 0.0.64 0.0.6e
    72.0.6e 0.0.64 6r.0.6e 2.0.6e 7.1.6e 5.0.6e d6.6.64 31.5.6e 0.0.7"

/-- The class of a character. -/
def combiningClass (c : Char) : Nat :=
  combiningClasses.valueOr 0 c

/-- The class of a virama, which joins two consonants. -/
def viramaClass : Nat := 9

end Intercom.Text
