import Intercom.Text.RangeTable

/-!
# Marks

The characters of the general category *Mark*, which belong to the character before them.
-/

namespace Intercom.Text

/-- The characters of the category. -/
def marks : RangeTable :=
  .ofText
    "lc.33 7n.6 7b.18 1.0 1.1 1.1 1.0 20.a 1c.k g.0 2t.6 2.5 2.1 1.3 z.0 u.q 2j.a 1m.8 9.0 o.3 1.8
    1.2 1.4 17.2 1n.8 16.n 1.w 1i.2 1.h 1.6 a.1 t.2 1k.0 1.6 2.1 2.2 9.0 a.1 q.0 2.2 1k.0 1.4 4.1
    2.2 3.0 u.1 3.0 b.2 1k.0 1.7 1.2 1.2 k.1 m.5 1.2 1k.0 1.6 2.1 2.2 7.2 a.1 u.0 1n.4 3.2 1.3 9.0
    14.4 1j.0 1.6 1.2 1.3 7.1 b.1 t.2 1k.0 1.6 1.2 1.3 7.1 b.1 f.0 c.3 1j.1 1.6 1.2 1.3 9.0 a.1
    t.2 1y.0 4.5 1.0 1.7 i.1 1p.0 2.6 c.7 2q.0 2.8 b.6 21.1 r.0 1.0 1.0 4.1 1d.j 1.1 5.a 1.z 9.0
    2s.j n.3 4.2 1.2 2.6 3.3 d.b 1.0 a.3 jj.2 qa.3 s.2 t.1 u.1 1s.v 9.0 19.2 1.0 39.1 y.0 3a.b 4.b
    63.4 1l.9 1.s 2.0 1c.19 2.b k.4 1b.g 12.8 c.2 u.c 1k.d 1c.j 48.2 1.k 4.0 6.0 2.2 5i.1r k0.w
    2da.2 3x.0 2o.v fe.5 2x.1 n9w.3 1.9 w.1 28.1 7k.0 3.0 4.0 n.4 4.0 2b.1 1e.h q.h d.0 12.7 p.c
    18.3 1b.d 10.0 1v.d c.0 8.1 19.2 1e.0 1.2 2.1 5.1 1.0 15.4 5.1 6k.7 1.1 fn4.0 kh.f g.f r1.0
    6a.0 45.4 1ae.2 1.1 5.3 14.2 4.0 4l.1 fx.3 1t.4 8t.1 25.5 1y.a 1d.3 3e.2 1h.e 15.0 2.1 a.3
    19.a 7.0 1p.2 10.d g.1 18.0 c.2 1c.d 8.3 1.1 2k.b 6.0 2.0 4d.b l.3 1j.1 1.6 2.1 2.2 9.0 a.1
    2.6 3.4 1v.8 1.0 2.0 1.3 1.4 1.0 e.1 2a.h n.0 29.j 6j.6 2.8 r.1 2a.g 2y.c 2t.e 74.e 6t.5 1.1
    2.3 1.0 1.1 3x.6 2.6 3.0 s.9 14.6 1.3 8.0 9.a 1a.f 5i.7 5j.7 1.7 2a.l 1.d 3e.5 3.0 1.1 1.6 1.0
    1u.4 1.1 1.4 9n.3 9.1 1.0 1c.6 3.4 n.0 44l.0 6.e 8ug.h 1xc.4 1n.6 t4.0 1.1i 7.3 29.0 b.1 f57.1
    3mp.19 2.m f2.4 3.5 8.7 2.6 u.3 44.2 1iz.1i 4.1d 8.0 e.0 m.4 1.e 11s.6 1.g 2.6 1.1 1.4 2s.0
    4g.6 af.0 1p.3 e4.3 72.1 6r.0 2.0 7.1 5.0 d6.6 31.6 gzhx.6n"

/-- Whether a character is a mark. -/
def isMark (c : Char) : Bool :=
  marks.contains c

end Intercom.Text
