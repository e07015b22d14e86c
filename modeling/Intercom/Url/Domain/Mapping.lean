import Intercom.Text.RangeTable

/-!
# Mapping of domain names

What each character of a domain name is taken for before anything else: itself, other characters,
or nothing. A character that is in no range may not stand in a name.

The first number of a range is 0 if its characters stand for themselves, 1 if each stands for the
characters that follow, 2 if the first stands for the one that follows and the others go along, and
3 if so does every second one while those between stand for themselves.
-/

namespace Intercom.Url.Domain

/-- The characters that may stand in a name. -/
def mappings : Text.RangeTable :=
  .ofText
    "0.1s.0 0.p.2.2p 0.10.0 w.0.2.w 0.6.0 0.0.1.w.lk 0.0.0 0.0.2.2p 0.1.0 0.0.1 0.0.0 0.0.1.w.lg
    0.1.0 0.1.2.1e 0.0.1.w.ld 0.0.2.qk 0.1.0 0.0.1.w.mf 0.0.2.1d 0.0.2.33 0.0.0 0.0.1.1d.6dg.1g
    0.0.1.1d.6dg.1e 0.0.1.1f.6dg.1g 0.0.0 0.m.2.68 0.0.0 0.6.2.6w 0.w.0 0.1a.3.75 0.0.0
    0.0.1.2x.lj 0.0.0 0.1.1.2x.2y 0.2.3.8l 0.1.0 0.4.3.8q 0.0.0 0.1.1.30.53 0.6.3.8y 0.0.0
    0.0.1.jg.32 0.18.3.97 0.0.0 0.0.2.73 0.4.3.ai 0.0.0 0.0.2.37 0.0.0 0.0.2.gj 0.2.3.ar 0.0.0
    0.0.2.gk 0.0.2.aw 0.0.0 0.1.2.gm 0.0.2.b0 0.1.0 0.0.2.d9 0.0.2.gp 0.0.2.gr 0.0.2.b6 0.0.0
    0.0.2.gw 0.0.2.gz 0.0.0 0.0.2.h5 0.0.2.h4 0.0.2.bd 0.2.0 0.0.2.hb 0.0.2.he 0.0.0 0.0.2.hh
    0.4.3.bl 0.0.0 0.0.2.hs 0.0.2.bs 0.0.0 0.0.2.hv 0.1.0 0.0.2.bx 0.0.0 0.0.2.i0 0.0.2.c0 0.0.0
    0.1.2.i2 0.2.3.c4 0.0.0 0.0.2.ia 0.0.2.c9 0.2.0 0.0.2.cd 0.6.0 0.2.1.2s.am 0.2.1.30.2y
    0.2.1.32.2y 0.e.3.cu 0.1.0 0.g.3.db 0.1.0 0.2.1.2s.3e 0.0.2.dx 0.0.0 0.0.2.b9 0.0.2.cf
    0.12.3.e1 0.0.0 0.0.2.bi 0.0.0 0.g.3.f7 0.6.0 0.0.2.8rp 0.0.2.fw 0.0.0 0.0.2.be 0.0.2.8rq
    0.1.0 0.0.2.g2 0.0.0 0.0.2.ao 0.0.2.i1 0.0.2.i4 0.8.3.g7 0.2o.0 0.0.2.2w 0.0.2.h2 0.0.2.2y
    0.0.2.36 0.0.2.hl 0.0.2.hn 0.0.2.ht 0.0.2.3b 0.0.2.3d 0.u.0 0.0.1.w.li 0.0.1.w.lj 0.0.1.w.lm
    0.0.1.w.mg 0.0.1.w.lf 0.0.1.w.ln 0.1.0 0.0.2.gz 0.0.2.30 0.0.2.37 0.0.2.3c 0.0.2.id 0.2i.0
    0.1.2.lc 0.0.0 0.0.2.lv 0.0.1.lk.ld 0.0.2.qh 0.8.0 0.0.1 0.v.0 0.2.3.oh 0.0.0 0.0.2.jd 0.0.0
    0.0.2.on 0.0.0 2.0.1.w.qh 0.2.0 0.0.2.1n 0.0.2.s3 4.0.1.w.ld 0.0.1.w.lk.ld 0.0.2.q4 0.0.2.53
    0.2.2.q5 1.0.2.r0 1.1.2.r1 0.0.0 0.g.2.q9 1.8.2.qr 0.y.0 0.0.2.rb 0.0.2.qa 0.0.2.qg 0.0.2.qt
    0.0.2.r1 0.0.2.qz 0.0.2.qu 0.0.2.qo 0.0.0 0.m.3.rd 0.0.0 0.0.2.qi 0.0.2.qp 0.0.2.qr 0.0.0
    0.0.2.qg 0.0.2.qd 0.0.0 0.0.2.s8 0.0.0 0.0.2.qr 0.0.2.sb 0.1.0 0.2.2.or 0.f.2.uo 0.v.2.ts
    0.1b.0 0.w.3.v5 0.8.0 0.1g.3.wb 0.0.0 0.0.2.y7 0.c.3.xu 0.1.0 0.2m.3.y9 0.0.0 1.11.2.129
    2.19.0 0.0.1.12d.136 0.2.0 2.2.0 1.1i.0 8.q.0 4.5.0 h.l.0 1.2f.0 0.0.1.17r.19w 0.0.1.18o.19w
    0.0.1.1c7.19w 0.0.1.18q.19w 0.2r.0 1.1b.0 2.1m.0 2.2s.0 e.1m.0 2.1c.0 2.e.0 1.r.0 2.0.0 1.a.0
    5.v.0 7.22.0 1.38.0 0.0.1.1sl.1to 0.0.1.1sm.1to 0.0.1.1sn.1to 0.0.1.1ss.1to 0.0.1.1sx.1to
    0.0.1.1sy.1to 0.0.1.1t7.1to 0.0.1.1tb.1to 0.z.0 1.7.0 2.1.0 2.l.0 1.6.0 1.0.0 3.3.0 2.8.0
    2.1.0 2.3.0 8.0.0 4.0.1.1wh.1x8 0.0.1.1wi.1x8 1.0.1.1wv.1x8 0.3.0 2.o.0 2.2.0 1.5.0 4.1.0
    2.l.0 1.6.0 1.0.0 0.0.1.20i.20s 1.0.0 0.0.1.20o.20s 1.1.0 2.0.0 1.4.0 4.1.0 2.2.0 3.0.0
    7.0.1.1zq.20s 0.0.1.1zr.20s 0.0.1.1zw.20s 0.0.0 1.0.1.20b.20s 7.g.0 a.2.0 1.8.0 1.2.0 1.l.0
    1.6.0 1.1.0 1.4.0 2.9.0 1.2.0 1.2.0 2.0.0 f.3.0 2.b.0 7.6.0 1.2.0 1.7.0 2.1.0 2.l.0 1.6.0
    1.1.0 1.4.0 2.8.0 2.1.0 2.2.0 7.2.0 4.0.1.275.27w 0.0.1.276.27w 1.4.0 2.h.0 a.1.0 1.5.0 3.2.0
    1.3.0 3.1.0 1.0.0 1.1.0 3.1.0 3.2.0 3.b.0 4.4.0 3.2.0 1.3.0 2.0.0 6.0.0 e.k.0 5.c.0 1.2.0
    1.m.0 1.f.0 2.8.0 1.2.0 1.3.0 7.1.0 1.2.0 1.1.0 2.3.0 2.9.0 7.l.0 1.2.0 1.m.0 1.9.0 1.4.0
    2.8.0 1.2.0 1.3.0 7.1.0 5.2.0 1.3.0 2.9.0 1.2.0 c.c.0 1.2.0 1.1e.0 1.2.0 1.5.0 4.f.0 2.p.0
    1.2.0 1.h.0 3.n.0 1.8.0 1.0.0 2.6.0 3.0.0 4.5.0 1.0.0 1.7.0 6.9.0 2.2.0 c.1d.0 0.0.1.2tp.2sy
    0.6.0 4.s.0 11.1.0 1.0.0 1.4.0 1.n.0 1.0.0 1.b.0 0.0.1.2x9.2wi 0.9.0 2.4.0 1.0.0 1.6.0 1.9.0
    2.0.1.2wb.2vt 0.0.1.2wb.2w1 0.1.0 w.b.0 0.0.2.2yz 0.1h.0 0.0.1.30i.33r 0.3.0 1.3.0
    0.0.1.30s.33r 0.3.0 0.0.1.30x.33r 0.3.0 0.0.1.312.33r 0.3.0 0.0.1.317.33r 0.b.0 0.0.1.30g.33p
    0.2.0 4.1.0 0.0.1.31t.31u 0.0.0 0.0.1.31t.31w 0.0.1.33m.328 0.0.1.33m.31t.328 0.0.1.33n.328
    0.0.1.33n.31t.328 0.6.0 0.0.1.31t.328 0.g.0 0.0.1.32q.33r 0.3.0 1.3.0 0.0.1.330.33r 0.3.0
    0.0.1.335.33r 0.3.0 0.0.1.33a.33r 0.3.0 0.0.1.33f.33r 0.b.0 0.0.1.32o.33p 0.2.0 1.e.0 1.c.0
    11.4f.0 0.11.2.8w0 1.0.2.8x3 5.0.2.8x9 2.17.0 0.0.2.3bw 0.2p.0 0.1.1 0.6f.0 1.3.0 2.6.0 1.0.0
    1.3.0 2.14.0 1.3.0 2.w.0 1.3.0 2.6.0 1.0.0 1.3.0 2.e.0 1.1k.0 1.3.0 2.1u.0 2.v.0 3.p.0 6.2d.0
    2.5.2.3xs 2.hr.0 1.r.0 3.2g.0 7.l.0 9.n.0 9.j.0 c.c.0 1.2.0 1.1.0 c.1f.0 0.1.1 0.13.0 2.9.0
    6.9.0 6.a.0 0.4.1 0.9.0 6.2g.0 7.16.0 5.1x.0 a.u.0 1.b.0 4.b.0 4.0.0 3.15.0 2.4.0 b.17.0 4.p.0
    6.a.0 3.1p.0 2.1s.0 1.s.0 2.a.0 6.9.0 6.d.0 2.19.0 2.b.0 k.24.0 1.4l.0 8.1n.0 3.e.0 3.1e.0
    0.0.2.tu 0.0.2.tw 0.0.2.u6 0.1.2.u9 0.0.2.ua 0.0.2.ui 0.0.2.v7 0.0.2.wuj 0.0.2.5my 0.0.0
    5.16.2.3bk 2.2.2.3ct 0.7.0 8.16.0 5.17.0 0.0.2.2p 0.0.2.6e 0.2.3.2q 0.0.2.2t 0.0.2.d9 0.7.2.2v
    0.0.0 0.0.2.33 0.0.2.f7 0.0.2.34 0.0.2.36 0.1.2.38 0.0.2.3b 0.0.2.2p 0.1.2.gg 0.0.2.5qa
    0.0.2.2q 0.1.2.2s 0.0.2.gp 0.1.2.gr 0.0.2.2v 0.0.0 0.0.2.2z 0.0.2.31 0.0.2.97 0.0.2.33
    0.0.2.gk 0.1.2.5qu 0.0.2.34 0.1.2.38 0.0.2.5r1 0.0.2.hb 0.0.2.3a 0.0.2.5r9 0.2.2.qa 0.1.2.qu
    0.0.2.2x 0.0.2.36 0.1.2.39 0.1.2.qa 0.0.2.qp 0.1.2.qu 0.c.0 0.0.2.u5 0.x.0 0.0.2.gi 0.0.2.2r
    0.0.2.gl 0.0.2.6o 0.0.2.gs 0.0.2.2u 0.0.2.gv 0.0.2.gx 0.0.2.h1 0.2.2.h4 0.0.2.5tn 0.0.2.il
    0.0.2.h9 0.0.2.5tx 0.0.2.in 0.0.2.hd 0.0.2.hc 0.3.2.he 0.0.2.hk 0.1.2.hu 0.0.2.bv 0.1.2.i1
    0.0.2.5r0 0.1.2.i3 0.0.2.3e 0.2.2.i8 0.0.2.qg 0.1r.0 0.44.3.5xd 0.4.0 0.0.1.2p.ji 0.0.2.601
    0.1.0 0.0.2.67 0.0.0 0.2m.3.61t 0.8.0 0.7.2.64g 0.5.0 2.5.2.64w 2.7.0 0.7.2.65c 0.7.0
    0.7.2.65s 0.5.0 2.5.2.668 2.7.0 1.0.2.66p 1.0.2.66r 1.0.2.66t 1.0.2.66v 0.7.0 0.7.2.674 0.0.0
    0.0.2.q4 0.0.0 0.0.2.q5 0.0.0 0.0.2.q6 0.0.0 0.0.2.q7 0.0.0 0.0.2.r0 0.0.0 0.0.2.r1 0.0.0
    0.0.2.r2 2.0.1.64g.qh 0.0.1.64h.qh 0.0.1.64i.qh 0.0.1.64j.qh 0.0.1.64k.qh 0.0.1.64l.qh
    0.0.1.64m.qh 0.0.1.64n.qh 0.0.1.64g.qh 0.0.1.64h.qh 0.0.1.64i.qh 0.0.1.64j.qh 0.0.1.64k.qh
    0.0.1.64l.qh 0.0.1.64m.qh 0.0.1.64n.qh 0.0.1.65c.qh 0.0.1.65d.qh 0.0.1.65e.qh 0.0.1.65f.qh
    0.0.1.65g.qh 0.0.1.65h.qh 0.0.1.65i.qh 0.0.1.65j.qh 0.0.1.65c.qh 0.0.1.65d.qh 0.0.1.65e.qh
    0.0.1.65f.qh 0.0.1.65g.qh 0.0.1.65h.qh 0.0.1.65i.qh 0.0.1.65j.qh 0.0.1.674.qh 0.0.1.675.qh
    0.0.1.676.qh 0.0.1.677.qh 0.0.1.678.qh 0.0.1.679.qh 0.0.1.67a.qh 0.0.1.67b.qh 0.0.1.674.qh
    0.0.1.675.qh 0.0.1.676.qh 0.0.1.677.qh 0.0.1.678.qh 0.0.1.679.qh 0.0.1.67a.qh 0.0.1.67b.qh
    0.1.0 0.0.1.67k.qh 0.0.1.q9.qh 0.0.1.q4.qh 1.0.0 0.0.1.69i.qh 0.1.2.69c 0.0.2.67k 0.0.2.q4
    0.0.1.q9.qh 0.0.1.w.lv 0.0.2.qh 0.0.1.w.lv 0.0.1.w.n6 0.0.1.w.lk.n6 0.0.1.67o.qh 0.0.1.qf.qh
    0.0.1.q6.qh 1.0.0 0.0.1.69y.qh 0.0.2.67m 0.0.2.q5 0.0.2.67o 0.0.2.q6 0.0.1.qf.qh 0.0.1.w.lv.lc
    0.0.1.w.lv.ld 0.0.1.w.lv.n6 0.2.0 0.0.2.pc 2.1.0 0.1.2.6a8 0.0.2.67q 0.0.2.q7 1.0.1.w.lw.lc
    0.0.1.w.lw.ld 0.0.1.w.lw.n6 0.2.0 0.0.2.q8 0.3.0 0.1.2.6ao 0.0.2.67u 0.0.2.r1 0.0.2.6at
    0.0.1.w.lk.lc 0.0.1.w.lk.ld 0.0.2.2o 2.0.1.67w.qh 0.0.1.qx.qh 0.0.1.r2.qh 1.0.0 0.0.1.6ba.qh
    0.0.2.67s 0.0.2.r0 0.0.2.67w 0.0.2.r2 0.0.1.qx.qh 0.0.1.w.ld 0.0.1.w.lw 1.a.1.w 0.0.1 0.1.0
    2.0.0 0.0.2.6c0 0.4.0 0.0.1.w.mr 0.b.0 3.0.0 7.0.2.w 0.2.0 0.0.1.6cy.6cy 0.0.1.6cy.6cy.6cy
    0.0.0 0.0.1.6d1.6d1 0.0.1.6d1.6d1.6d1 0.3.0 0.0.1.x.x 0.0.0 0.0.1.w.lh 0.7.0 0.0.1.1r.1r
    0.0.1.1r.x 0.0.1.x.1r 0.c.0 0.0.1.6cy.6cy.6cy.6cy 0.6.0 0.0.2.w 0.4.1 5.5.1 0.0.2.1c 0.0.2.2x
    2.5.2.1g 0.0.2.17 0.0.2.6qa 0.0.2.1p 0.1.2.14 0.0.2.32 0.9.2.1c 0.0.2.17 0.0.2.6qa 0.0.2.1p
    0.1.2.14 1.0.2.2p 0.0.2.2t 0.0.2.33 0.0.2.3c 0.0.2.gp 0.0.2.2w 0.3.2.2z 0.0.2.34 0.1.2.37
    3.7.0 0.0.1.36.37 0.o.0 e.w.0 f.0.1.2p.1b.2r 0.0.1.2p.1b.37 0.0.2.2r 0.0.1.4w.2r 0.0.0
    0.0.1.2r.1b.33 0.0.1.2r.1b.39 0.0.2.gr 0.0.0 0.0.1.4w.2u 0.1.2.2v 0.2.1.2w 0.0.2.87 0.1.1.2x
    0.1.1.30 0.0.0 0.0.2.32 0.0.1.32.33 0.1.0 0.2.2.34 0.1.1.36 0.1.0 0.0.1.37.31 0.0.1.38.2t.30
    0.0.1.38.31 0.0.0 0.0.2.3e 0.0.0 0.0.2.qx 0.0.0 0.0.2.3e 0.0.0 0.0.2.2z 0.0.2.6d 0.1.2.2q
    0.0.0 0.1.1.2t 0.0.2.2u 0.0.2.6ku 0.0.2.31 0.0.2.33 0.3.2.15c 0.0.2.2x 0.0.0 0.0.1.2u.2p.3c
    0.0.2.qo 0.1.1.qb 0.0.2.qo 0.0.2.6q9 0.3.0 0.1.1.2s 0.0.2.2t 0.1.2.2x 0.5.0 0.0.1.1d.6dg.1j
    0.0.1.1d.6dg.1l 0.0.1.1d.6dg.1d.1c 0.0.1.1d.6dg.1f 0.0.1.1e.6dg.1f 0.0.1.1d.6dg.1h
    0.0.1.1e.6dg.1h 0.0.1.1f.6dg.1h 0.0.1.1g.6dg.1h 0.0.1.1d.6dg.1i 0.0.1.1h.6dg.1i
    0.0.1.1d.6dg.1k 0.0.1.1f.6dg.1k 0.0.1.1h.6dg.1k 0.0.1.1j.6dg.1k 0.0.1.1d.6dg 0.0.2.2x
    0.0.1.2x.2x 0.0.1.2x.2x.2x 0.0.1.2x.3a 0.0.2.3a 0.0.1.3a.2x 0.0.1.3a.2x.2x 0.0.1.3a.2x.2x.2x
    0.0.1.2x.3c 0.0.2.3c 0.0.1.3c.2x 0.0.1.3c.2x.2x 0.0.2.30 0.1.2.2r 0.0.2.31 0.0.2.2x
    0.0.1.2x.2x 0.0.1.2x.2x.2x 0.0.1.2x.3a 0.0.2.3a 0.0.1.3a.2x 0.0.1.3a.2x.2x 0.0.1.3a.2x.2x.2x
    0.0.1.2x.3c 0.0.2.3c 0.0.1.3c.2x 0.0.1.3c.2x.2x 0.0.2.30 0.1.2.2r 0.0.2.31 0.2.0 0.0.2.6mc
    0.4.0 0.0.1.1c.6dg.1f 0.1.0 4.4b.0 0.0.1.6qz.6qz 0.0.1.6qz.6qz.6qz 0.0.0 0.0.1.6r2.6r2
    0.0.1.6r2.6r2.6r2 0.6v.0 0.1.2.9hk 0.72.0 m.a.0 l.8.2.1d 0.0.1.1d.1c 0.0.1.1d.1d 0.0.1.1d.1e
    0.0.1.1d.1f 0.0.1.1d.1g 0.0.1.1d.1h 0.0.1.1d.1i 0.0.1.1d.1j 0.0.1.1d.1k 0.0.1.1d.1l
    0.0.1.1e.1c 0.0.1.14.1d.15 0.0.1.14.1e.15 0.0.1.14.1f.15 0.0.1.14.1g.15 0.0.1.14.1h.15
    0.0.1.14.1i.15 0.0.1.14.1j.15 0.0.1.14.1k.15 0.0.1.14.1l.15 0.0.1.14.1d.1c.15
    0.0.1.14.1d.1d.15 0.0.1.14.1d.1e.15 0.0.1.14.1d.1f.15 0.0.1.14.1d.1g.15 0.0.1.14.1d.1h.15
    0.0.1.14.1d.1i.15 0.0.1.14.1d.1j.15 0.0.1.14.1d.1k.15 0.0.1.14.1d.1l.15 0.0.1.14.1e.1c.15
    k.0.1.14.2p.15 0.0.1.14.2q.15 0.0.1.14.2r.15 0.0.1.14.2s.15 0.0.1.14.2t.15 0.0.1.14.2u.15
    0.0.1.14.2v.15 0.0.1.14.2w.15 0.0.1.14.2x.15 0.0.1.14.2y.15 0.0.1.14.2z.15 0.0.1.14.30.15
    0.0.1.14.31.15 0.0.1.14.32.15 0.0.1.14.33.15 0.0.1.14.34.15 0.0.1.14.35.15 0.0.1.14.36.15
    0.0.1.14.37.15 0.0.1.14.38.15 0.0.1.14.39.15 0.0.1.14.3a.15 0.0.1.14.3b.15 0.0.1.14.3c.15
    0.0.1.14.3d.15 0.0.1.14.3e.15 0.p.2.2p 0.p.2.2p 0.0.2.1c 0.10g.0 0.0.1.6qz.6qz.6qz.6qz 0.2u.0
    0.0.1.1m.1m.1p 0.0.1.1p.1p 0.0.1.1p.1p.1p 0.2s.0 0.0.1.8gt.mw 0.46.0 2.3t.0 0.1b.2.8q8 0.1b.0
    0.0.2.8rl 0.0.0 0.0.2.h7 0.0.2.5tp 0.0.2.hp 0.1.0 0.4.3.8rs 0.0.0 0.0.2.gh 0.0.2.hd 0.0.2.gg
    0.0.2.gi 0.0.0 0.0.2.8s3 0.1.0 0.0.2.8s6 0.5.0 0.0.2.2y 0.0.2.3a 0.1.2.fz 0.2q.3.8sh 0.7.0
    0.2.3.8vg 0.3.0 0.0.2.8vn 0.0.0 5.18.0 1.0.0 5.0.0 2.1j.0 7.0.2.8yp 0.0.0 e.n.0 9.6.0 1.6.0
    1.6.0 1.6.0 1.6.0 1.6.0 1.6.0 1.6.0 1.3h.0 y.p.0 1.3.0 0.0.2.lal 0.2a.0 0.0.2.vj3 c.0.2.feo
    0.0.2.ffs 0.0.2.fg6 0.0.2.fgf 0.0.2.fh5 0.0.2.fid 0.0.2.fik 0.0.2.fj4 0.0.2.fju 0.0.2.g1r
    0.0.2.g2t 0.0.2.g2z 0.0.2.g3m 0.0.2.g46 0.0.2.g4r 0.0.2.g68 0.0.2.g6t 0.0.2.g74 0.0.2.gbf
    0.0.2.ge1 0.0.2.get 0.0.2.gey 0.0.2.gfs 0.0.2.gg1 0.0.2.ggs 0.0.2.gh5 0.0.2.ghu 0.0.2.gja
    0.0.2.gjs 0.0.2.gkj 0.0.2.h5j 0.0.2.h7j 0.0.2.hkb 0.0.2.hky 0.0.2.hl6 0.0.2.hlh 0.0.2.hlz
    0.0.2.ho3 0.0.2.i1c 0.0.2.i2o 0.0.2.i60 0.0.2.i6n 0.0.2.i76 0.0.2.i7s 0.0.2.i9a 0.0.2.i9d
    0.0.2.ijf 0.0.2.ijp 0.0.2.ik1 0.0.2.ike 0.0.2.inm 0.0.2.inu 0.0.2.inz 0.0.2.ir8 0.0.2.iri
    0.0.2.irv 0.0.2.is3 0.0.2.its 0.0.2.iu9 0.0.2.iur 0.0.2.iwz 0.0.2.jd4 0.0.2.jee 0.0.2.jez
    0.0.2.jzj 0.0.2.jzo 0.0.2.k1z 0.0.2.k2f 0.0.2.k2s 0.0.2.k3d 0.0.2.k4g 0.0.2.k4l 0.0.2.kc0
    0.0.2.kco 0.0.2.kdk 0.0.2.l5s 0.0.2.l7m 0.0.2.l89 0.0.2.l9v 0.0.2.laj 0.0.2.las 0.0.2.laz
    0.0.2.lcf 0.0.2.lck 0.0.2.ldg 0.0.2.m7f 0.0.2.mju 0.0.2.mk6 0.0.2.mkb 0.0.2.mkf 0.0.2.mkn
    0.0.2.ml5 0.0.2.ml7 0.0.2.mng 0.0.2.mtg 0.0.2.mtl 0.0.2.n30 0.0.2.n3a 0.0.2.n4o 0.0.2.n4v
    0.0.2.n54 0.0.2.n5c 0.0.2.n7v 0.0.2.n82 0.0.2.nee 0.0.2.nel 0.0.2.nfy 0.0.2.ngf 0.0.2.nhq
    0.0.2.nob 0.0.2.noi 0.0.2.noz 0.0.2.ny2 0.0.2.o1k 0.0.2.o1q 0.0.2.o6s 0.0.2.o97 0.0.2.oah
    0.0.2.okz 0.0.2.ooo 0.0.2.p4m 0.0.2.p5d 0.0.2.p6y 0.0.2.p8d 0.0.2.pa9 0.0.2.pak 0.0.2.paq
    0.0.2.pbn 0.0.2.pdr 0.0.2.pe1 0.0.2.pnn 0.0.2.pnu 0.0.2.po3 0.0.2.poc 0.0.2.pos 0.0.2.pp7
    0.0.2.ppb 0.0.2.pri 0.0.2.prm 0.0.2.prs 0.0.2.qj1 0.0.2.qjv 0.0.2.qww 0.0.2.qx8 0.0.2.qxv
    0.0.2.r5q 0.0.2.r63 0.0.2.r82 0.0.2.r9c 0.0.2.rp3 0.0.2.rpi 0.0.2.rpx 0.0.2.rqw 0.0.2.rrx
    0.0.2.rxg 0.0.2.rxs 0.0.2.rzn 0.0.2.s6j 0.0.2.s7e 0.0.2.sd7 0.0.2.sds 0.0.2.sdx 0.0.2.sk1
    0.0.2.sp5 0.0.2.ssm 0.0.2.sss 0.0.2.ssx 0.0.2.tiv 0.0.2.tj4 0.0.2.tng 0.0.2.trq 0.0.2.trt
    0.0.2.tt4 0.0.2.tw1 0.0.2.twe 0.0.2.twi 0.0.2.twp 0.0.2.tzf 0.0.2.u0d 0.0.2.u0j 0.0.2.u0x
    0.0.2.u5k 0.0.2.u6z 0.0.2.u73 0.0.2.uc6 0.0.2.uc9 0.0.2.ucs 0.0.2.ujs 0.0.2.ul4 0.0.2.ulb
    0.0.2.un9 0.0.2.unj 0.0.2.unm 0.0.2.unw 0.0.2.uoq 0.0.2.uzp 0.0.2.vat 0.0.2.vb3 0.0.2.vc5
    0.0.2.vcr 0.0.2.vcz 0.0.2.vd9 0.0.2.vdd 0.0.2.veh 0.0.2.vel 0.0.2.vf2 0.0.2.vf7 0.0.2.vfk
    0.0.2.vgb 0.0.2.vgq 0.0.2.vgy 0.0.2.vil 0.0.2.vj0 0.0.2.vj4 16.0.2.w 0.0.0 0.0.2.1a 0.1e.0
    0.0.2.9hu 0.0.0 0.0.2.gg1 0.1.2.gg4 0.4.0 1.2d.0 2.1.0 0.0.1.w.9ll 0.0.1.w.9lm 0.1.0
    0.0.1.9l4.9l6 0.2m.0 0.0.1.9mb.9mw 5.16.0 1.1.2.3cw 0.0.2.3hm 0.0.2.3cy 0.1.2.3ho 0.2.2.3cz
    0.5.2.3hs 0.0.2.3dm 0.2.2.3d2 0.0.2.3dt 0.9.2.3d5 0.k.2.3fl 0.0.1 0.1.2.3dg 0.1.2.3if
    0.0.2.3ik 0.0.2.3im 0.0.2.3ir 0.0.2.3iv 0.0.2.3ix 0.0.2.3do 0.0.2.3j1 0.0.2.3j3 0.1.2.3dp
    0.0.2.3ds 0.1.2.3du 0.0.2.3dz 0.0.2.3e1 0.4.2.3e3 0.0.2.3ea 0.0.2.3ee 0.0.2.3eo 0.0.2.3ev
    0.0.2.3f0 0.1.2.3jl 0.2.2.3fb 0.1.2.3gk 0.0.2.3go 0.1.2.3gx 0.0.2.3h0 0.0.2.3ha 0.0.2.3hd
    1.1.0 0.0.2.feo 0.0.2.fik 0.0.2.fex 0.0.2.h5n 0.0.2.fey 0.0.2.ffx 0.0.2.fez 0.0.2.n5e
    0.0.2.fh5 0.0.2.ffd 0.0.2.fep 0.0.2.hm1 0.0.2.h80 0.0.2.fju 0.1x.0 a.f.0 0.0.1.14.3cw.15
    0.0.1.14.3cy.15 0.0.1.14.3cz.15 0.0.1.14.3d1.15 0.0.1.14.3d2.15 0.0.1.14.3d3.15
    0.0.1.14.3d5.15 0.0.1.14.3d7.15 0.0.1.14.3d8.15 0.0.1.14.3da.15 0.0.1.14.3db.15
    0.0.1.14.3dc.15 0.0.1.14.3dd.15 0.0.1.14.3de.15 0.0.1.14.xz4.15 0.0.1.14.yvs.15
    0.0.1.14.zc4.15 0.0.1.14.108s.15 0.0.1.14.10p4.15 0.0.1.14.115g.15 0.0.1.14.1224.15
    0.0.1.14.12ys.15 0.0.1.14.13f4.15 0.0.1.14.14bs.15 0.0.1.14.14s4.15 0.0.1.14.158g.15
    0.0.1.14.15os.15 0.0.1.14.1654.15 0.0.1.14.13p8.15 0.0.1.14.1350.13ic.15 0.0.1.14.1350.16f8.15
    1.0.1.14.feo.15 0.0.1.14.fik.15 0.0.1.14.fex.15 0.0.1.14.h5n.15 0.0.1.14.fis.15
    0.0.1.14.g31.15 0.0.1.14.fer.15 0.0.1.14.g2z.15 0.0.1.14.fh9.15 0.0.1.14.gg1.15
    0.0.1.14.kco.15 0.0.1.14.m7f.15 0.0.1.14.ldg.15 0.0.1.14.kdk.15 0.0.1.14.ssx.15
    0.0.1.14.h7j.15 0.0.1.14.k4l.15 0.0.1.14.kkq.15 0.0.1.14.kcp.15 0.0.1.14.ny6.15
    0.0.1.14.glp.15 0.0.1.14.mm1.15 0.0.1.14.rs1.15 0.0.1.14.nz1.15 0.0.1.14.gc4.15
    0.0.1.14.fkz.15 0.0.1.14.gos.15 0.0.1.14.i1y.15 0.0.1.14.nhf.15 0.0.1.14.flt.15
    0.0.1.14.rt3.15 0.0.1.14.ggk.15 0.0.1.14.nzh.15 0.0.1.14.fm9.15 0.0.1.14.pnu.15
    0.0.1.14.po3.15 0.0.2.gun 0.0.2.inw 0.0.2.k1z 0.0.2.oen 0.7.0 0.0.1.34.38.2t 0.0.1.1e.1d
    0.0.1.1e.1e 0.0.1.1e.1f 0.0.1.1e.1g 0.0.1.1e.1h 0.0.1.1e.1i 0.0.1.1e.1j 0.0.1.1e.1k
    0.0.1.1e.1l 0.0.1.1f.1c 0.0.1.1f.1d 0.0.1.1f.1e 0.0.1.1f.1f 0.0.1.1f.1g 0.0.1.1f.1h 0.0.2.3cw
    0.1.2.3cy 0.2.2.3d1 0.0.2.3d5 0.1.2.3d7 0.4.2.3da 0.0.2.xz4 0.0.2.yvs 0.0.2.zc4 0.0.2.108s
    0.0.2.10p4 0.0.2.115g 0.0.2.1224 0.0.2.12ys 0.0.2.13f4 0.0.2.14bs 0.0.2.14s4 0.0.2.158g
    0.0.2.15os 0.0.2.1654 0.0.1.14c8.y5c 0.0.1.13p8.13dk 0.0.2.138w 0.0.0 0.0.2.feo 0.0.2.fik
    0.0.2.fex 0.0.2.h5n 0.0.2.fis 0.0.2.g31 0.0.2.fer 0.0.2.g2z 0.0.2.fh9 0.0.2.gg1 0.0.2.kco
    0.0.2.m7f 0.0.2.ldg 0.0.2.kdk 0.0.2.ssx 0.0.2.h7j 0.0.2.k4l 0.0.2.kkq 0.0.2.kcp 0.0.2.ny6
    0.0.2.glp 0.0.2.mm1 0.0.2.rs1 0.0.2.nz1 0.0.2.gc4 0.0.2.o2g 0.0.2.n5j 0.0.2.ho3 0.0.2.six
    0.0.2.g16 0.0.2.ghc 0.0.2.lig 0.0.2.u11 0.0.2.fm9 0.0.2.g49 0.0.2.l7n 0.0.2.fey 0.0.2.ffx
    0.0.2.fez 0.0.2.ijq 0.0.2.gkz 0.0.2.gfv 0.0.2.i3b 0.0.2.i1y 0.0.2.nhf 0.0.2.flt 0.0.2.rt3
    0.0.2.ggk 0.0.2.hlo 0.0.1.1f.1i 0.0.1.1f.1j 0.0.1.1f.1k 0.0.1.1f.1l 0.0.1.1g.1c 0.0.1.1g.1d
    0.0.1.1g.1e 0.0.1.1g.1f 0.0.1.1g.1g 0.0.1.1g.1h 0.0.1.1g.1i 0.0.1.1g.1j 0.0.1.1g.1k
    0.0.1.1g.1l 0.0.1.1h.1c 0.0.1.1d.kco 0.0.1.1e.kco 0.0.1.1f.kco 0.0.1.1g.kco 0.0.1.1h.kco
    0.0.1.1i.kco 0.0.1.1j.kco 0.0.1.1k.kco 0.0.1.1l.kco 0.0.1.1d.1c.kco 0.0.1.1d.1d.kco
    0.0.1.1d.1e.kco 0.0.1.2w.2v 0.0.1.2t.36.2v 0.0.1.2t.3a 0.0.1.30.38.2s 0.0.2.9lu 0.0.2.9lw
    0.0.2.9ly 0.0.2.9m0 0.1.2.9m2 0.0.2.9m5 0.0.2.9m7 0.0.2.9m9 0.0.2.9mb 0.0.2.9md 0.0.2.9mf
    0.0.2.9mh 0.0.2.9mj 0.0.2.9ml 0.0.2.9mn 0.0.2.9mp 0.0.2.9ms 0.0.2.9mu 0.0.2.9mw 0.5.2.9my
    0.0.2.9n6 0.0.2.9n9 0.0.2.9nc 0.0.2.9nf 0.4.2.9ni 0.0.2.9no 0.0.2.9nq 0.5.2.9ns 0.3.2.9nz
    0.0.1.fl0.gp8 0.0.1.9lu.9n5.9oc.9mw 0.0.1.9lu.9nv.9n9.9lt 0.0.1.9lu.9o3.9ne.9lu
    0.0.1.9lu.9oc.9nv 0.0.1.9lw.9mz.9o3.9m8 0.0.1.9lw.9o3.9mp 0.0.1.9ly.9m1.9o3
    0.0.1.9m0.9mh.9m7.9oc.9mx 0.0.1.9m0.9oc.9m3.9oc 0.0.1.9m2.9o3.9mh 0.0.1.9m2.9oc.9nk
    0.0.1.9m3.9lw.9nu 0.0.1.9m3.9nt.9mr.9mw 0.0.1.9m3.9nx.9nu.9oc 0.0.1.9m4.9nx.9o3
    0.0.1.9m4.9o3.9ni 0.0.1.9m6.9m4 0.0.1.9m6.9mz.9oc 0.0.1.9m5.9np.9nu.9oc 0.0.1.9m6.9nv.9mo.9oc
    0.0.1.9m5.9nx 0.0.1.9m5.9nx.9m8.9nt.9nk 0.0.1.9m5.9nx.9nl.9oc.9mw.9nv
    0.0.1.9m5.9nx.9nz.9mr.9mw 0.0.1.9m8.9nt.9nk 0.0.1.9m8.9nt.9nk.9mw.9o3
    0.0.1.9m7.9nv.9mk.9lw.9nx 0.0.1.9m7.9nx.9oc.9n1 0.0.1.9m9.9oc.9mh 0.0.1.9mb.9nv.9my
    0.0.1.9mb.9oc.9nh 0.0.1.9md.9lw.9m7.9nv 0.0.1.9md.9o3.9mp.9oc.9nk 0.0.1.9mf.9nu.9o3.9m8
    0.0.1.9mj.9o3.9mp 0.0.1.9mj.9o3.9mw 0.0.1.9mo.9oc.9mh 0.0.1.9mv.9mf 0.0.1.9mx.9nv
    0.0.1.9mw.9o3 0.0.1.9my.9n2 0.0.1.9n2.9mr.9mw 0.0.1.9n3.9lw.9ms 0.0.1.9n5.9oc.9mj.9o3.9mw
    0.0.1.9n5.9oc.9ms 0.0.1.9n4.9oc.9nw.9nv 0.0.1.9n8.9lu.9mh.9mw.9nv 0.0.1.9n8.9m7.9nv
    0.0.1.9n8.9mb 0.0.1.9n7.9nv 0.0.1.9n9.9lt.9nt.9mr.9mx 0.0.1.9n9.9lv.9oc.9mw
    0.0.1.9na.9mr.9mf.9lz.9nv 0.0.1.9n9.9nt.9o3 0.0.1.9nc.9m7.9mn.9oc.9nv 0.0.1.9ne.9ml
    0.0.1.9ne.9mz.9n6 0.0.1.9nc.9nv.9ms 0.0.1.9ne.9o3.9mh 0.0.1.9ne.9oc.9mg 0.0.1.9nd.9oc.9mn
    0.0.1.9nh.9lw.9o3.9mw 0.0.1.9ng.9nv.9mw 0.0.1.9nf.9o3 0.0.1.9nh.9o3.9mx 0.0.1.9nf.9oc.9nv
    0.0.1.9nf.9oc.9o3 0.0.1.9ni.9lw.9m7.9nx 0.0.1.9ni.9lw.9nv 0.0.1.9ni.9mr.9n3 0.0.1.9ni.9nv.9m7
    0.0.1.9ni.9o3.9mf.9nr.9o3 0.0.1.9nj.9m7.9nx.9o3 0.0.1.9nj.9nu 0.0.1.9nj.9nu.9n4.9oc.9nv
    0.0.1.9nl.9m4 0.0.1.9nl.9m4.9mw.9o3 0.0.1.9nl.9oc.9mw.9nv 0.0.1.9no.9oc.9mx 0.0.1.9no.9oc.9nv
    0.0.1.9nq.9lu.9o3 0.0.1.9nu.9mr.9mw.9nv 0.0.1.9nu.9nt 0.0.1.9nv.9n8.9oc 0.0.1.9nv.9oc.9na.9nv
    0.0.1.9nw.9nk 0.0.1.9nw.9o3.9mw.9ma.9o3 0.0.1.9nz.9mr.9mw 0.0.1.1c.m9l 0.0.1.1d.m9l
    0.0.1.1e.m9l 0.0.1.1f.m9l 0.0.1.1g.m9l 0.0.1.1h.m9l 0.0.1.1i.m9l 0.0.1.1j.m9l 0.0.1.1k.m9l
    0.0.1.1l.m9l 0.0.1.1d.1c.m9l 0.0.1.1d.1d.m9l 0.0.1.1d.1e.m9l 0.0.1.1d.1f.m9l 0.0.1.1d.1g.m9l
    0.0.1.1d.1h.m9l 0.0.1.1d.1i.m9l 0.0.1.1d.1j.m9l 0.0.1.1d.1k.m9l 0.0.1.1d.1l.m9l
    0.0.1.1e.1c.m9l 0.0.1.1e.1d.m9l 0.0.1.1e.1e.m9l 0.0.1.1e.1f.m9l 0.0.1.1e.1g.m9l 0.0.1.2w.34.2p
    0.0.1.2s.2p 0.0.1.2p.39 0.0.1.2q.2p.36 0.0.1.33.3a 0.0.1.34.2r 0.0.1.2s.31 0.0.1.2s.31.1e
    0.0.1.2s.31.1f 0.0.1.2x.39 0.0.1.inn.jdc 0.0.1.k6l.gp8 0.0.1.hlz.l7n 0.0.1.k5q.lh7
    0.0.1.kkq.irz.fmi.ny6 0.0.1.34.2p 0.0.1.32.2p 0.0.1.qk.2p 0.0.1.31.2p 0.0.1.2z.2p 0.0.1.2z.2q
    0.0.1.31.2q 0.0.1.2v.2q 0.0.1.2r.2p.30 0.0.1.2z.2r.2p.30 0.0.1.34.2u 0.0.1.32.2u 0.0.1.qk.2u
    0.0.1.qk.2v 0.0.1.31.2v 0.0.1.2z.2v 0.0.1.2w.3e 0.0.1.2z.2w.3e 0.0.1.31.2w.3e 0.0.1.2v.2w.3e
    0.0.1.38.2w.3e 0.0.1.qk.30 0.0.1.31.30 0.0.1.2s.30 0.0.1.2z.30 0.0.1.2u.31 0.0.1.32.31
    0.0.1.qk.31 0.0.1.31.31 0.0.1.2r.31 0.0.1.2z.31 0.0.1.31.31.1e 0.0.1.2r.31.1e 0.0.1.31.1e
    0.0.1.2z.31.1e 0.0.1.31.31.1f 0.0.1.2r.31.1f 0.0.1.31.1f 0.0.1.2z.31.1f 0.0.1.31.6qd.37
    0.0.1.31.6qd.37.1e 0.0.1.34.2p 0.0.1.2z.34.2p 0.0.1.31.34.2p 0.0.1.2v.34.2p 0.0.1.36.2p.2s
    0.0.1.36.2p.2s.6qd.37 0.0.1.36.2p.2s.6qd.37.1e 0.0.1.34.37 0.0.1.32.37 0.0.1.qk.37 0.0.1.31.37
    0.0.1.34.3a 0.0.1.32.3a 0.0.1.qk.3a 0.0.1.31.3a 0.0.1.2z.3a 0.0.1.31.3a 0.0.1.34.3b
    0.0.1.32.3b 0.0.1.qk.3b 0.0.1.31.3b 0.0.1.2z.3b 0.0.1.31.3b 0.0.1.2z.qx 0.0.1.31.qx
    1.0.1.2q.35 0.0.1.2r.2r 0.0.1.2r.2s 0.0.1.2r.6qd.2z.2v 1.0.1.2s.2q 0.0.1.2v.3d 0.0.1.2w.2p
    0.0.1.2w.34 0.0.1.2x.32 0.0.1.2z.2z 0.0.1.2z.31 0.0.1.2z.38 0.0.1.30.31 0.0.1.30.32
    0.0.1.30.33.2v 0.0.1.30.3c 0.0.1.31.2q 0.0.1.31.2x.30 0.0.1.31.33.30 0.0.1.34.2w
    1.0.1.34.34.31 0.0.1.34.36 0.0.1.37.36 0.0.1.37.3a 0.0.1.3b.2q 0.0.1.3a.6qd.31 0.0.1.2p.6qd.31
    0.0.1.1d.k4l 0.0.1.1e.k4l 0.0.1.1f.k4l 0.0.1.1g.k4l 0.0.1.1h.k4l 0.0.1.1i.k4l 0.0.1.1j.k4l
    0.0.1.1k.k4l 0.0.1.1l.k4l 0.0.1.1d.1c.k4l 0.0.1.1d.1d.k4l 0.0.1.1d.1e.k4l 0.0.1.1d.1f.k4l
    0.0.1.1d.1g.k4l 0.0.1.1d.1h.k4l 0.0.1.1d.1i.k4l 0.0.1.1d.1j.k4l 0.0.1.1d.1k.k4l
    0.0.1.1d.1l.k4l 0.0.1.1e.1c.k4l 0.0.1.1e.1d.k4l 0.0.1.1e.1e.k4l 0.0.1.1e.1f.k4l
    0.0.1.1e.1g.k4l 0.0.1.1e.1h.k4l 0.0.1.1e.1i.k4l 0.0.1.1e.1j.k4l 0.0.1.1e.1k.k4l
    0.0.1.1e.1l.k4l 0.0.1.1f.1c.k4l 0.0.1.1f.1d.k4l 0.0.1.2v.2p.30 0.m8c.0 3.1i.0 9.9n.0
    k.18.3.wu9 0.i.0 0.q.3.ww1 0.0.0 0.0.2.ui 0.0.2.uk 0.2h.0 8.x.0 0.c.3.x0j 0.2.0 0.1o.3.x0z
    0.0.0 0.0.2.x2n 0.7.0 0.2.3.x2y 0.0.0 0.0.2.5tl 0.8.3.x33 0.3.0 0.0.2.x3g 0.0.0 0.0.2.h1 0.1.0
    0.2.3.x3l 0.2.0 0.i.3.x3r 0.0.0 0.0.2.h2 0.0.2.gs 0.0.2.gx 0.0.2.h8 0.0.2.h6 0.0.0 0.0.2.im
    0.0.2.hz 0.0.2.il 0.0.2.xub 0.e.3.x4l 0.0.0 0.0.2.x3o 0.0.2.hu 0.0.2.5u6 0.2.3.x54 0.0.0
    0.0.2.h0 0.e.3.x59 0.0.0 0.0.2.bf k.0.2.37 0.0.2.2r 0.0.2.2u 0.0.2.35 0.0.2.x6e 0.1.0 0.0.2.87
    0.0.2.9f 0.1e.0 3.9.0 6.1j.0 8.1x.0 8.b.0 6.37.0 b.t.0 3.25.0 1.a.0 4.w.0 1.1i.0 9.d.0 2.9.0
    2.2u.0 o.r.0 a.5.0 2.5.0 2.5.0 9.6.0 1.6.0 1.17.0 0.0.2.x0n 0.0.2.xtj 0.0.2.h7 0.0.2.xua 0.8.0
    0.0.2.i5 0.1.0 4.27.2.3vk 0.19.0 2.9.0 6.8mb.0 c.m.0 4.1c.0 6is.0.2.rpk 0.0.2.kc4 0.0.2.s7e
    0.0.2.rt4 0.0.2.lw1 0.0.2.fg2 0.0.2.gkl 0.1.1.vj0 0.0.2.hn5 0.0.2.ssx 0.0.2.gw7 0.0.2.hmw
    0.0.2.jcm 0.0.2.ne1 0.0.2.p6t 0.0.2.qin 0.0.2.qt6 0.0.2.r20 0.0.2.sjz 0.0.2.kxu 0.0.2.ljv
    0.0.2.mah 0.0.2.mvy 0.0.2.q4d 0.0.2.sq2 0.0.2.uep 0.0.2.fia 0.0.2.ghh 0.0.2.l50 0.0.2.mjf
    0.0.2.qi5 0.0.2.v8e 0.0.2.ifk 0.0.2.m3v 0.0.2.qfh 0.0.2.r50 0.0.2.jih 0.0.2.pnc 0.0.2.qvz
    0.0.2.iq2 0.0.2.kd3 0.0.2.lm2 0.0.2.mpo 0.0.2.slq 0.0.2.fpi 0.0.2.g53 0.0.2.gda 0.0.2.jwk
    0.0.2.l3n 0.0.2.mj4 0.0.2.nhj 0.0.2.pa9 0.0.2.qh2 0.0.2.qjg 0.0.2.s1b 0.0.2.tv6 0.0.2.upb
    0.0.2.v7e 0.0.2.nt8 0.0.2.nzz 0.0.2.otc 0.0.2.q15 0.0.2.t1g 0.0.2.vb3 0.0.2.rfa 0.0.2.hjz
    0.0.2.iro 0.0.2.okg 0.0.2.pdq 0.0.2.mle 0.0.2.nuy 0.0.2.rsy 0.0.2.ttj 0.0.2.hjs 0.0.2.i8y
    0.0.2.kyb 0.0.2.lp6 0.0.2.lxr 0.0.2.oq7 0.0.2.oxj 0.0.2.tor 0.0.2.gcy 0.0.2.pe3 0.0.2.g64
    0.0.2.g5o 0.0.2.o4c 0.0.2.ou6 0.0.2.q29 0.0.2.tpx 0.0.2.rk0 0.0.2.jin 0.0.2.kxu 0.0.2.rge
    0.0.2.fg9 0.0.2.i5j 0.0.2.iz6 0.0.2.mtj 0.0.2.n74 0.0.2.gev 0.0.2.nwb 0.0.2.fr3 0.0.2.iw9
    0.0.2.ff1 0.0.2.lho 0.0.2.k1k 0.0.2.opu 0.0.2.gjn 0.0.2.hge 0.0.2.ni9 0.0.2.q4p 0.0.2.re2
    0.0.2.la2 0.0.2.sds 0.0.2.lfs 0.0.2.jjy 0.0.2.put 0.0.2.jog 0.0.2.n6t 0.0.2.fji 0.0.2.g2x
    0.0.2.g5l 0.0.2.kn5 0.0.2.oo7 0.0.2.prj 0.0.2.rf6 0.0.2.ssv 0.0.2.gdx 0.0.2.gn6 0.0.2.ho3
    0.0.2.ir0 0.0.2.k3p 0.0.2.m4e 0.0.2.nxm 0.0.2.tkd 0.0.2.ui2 0.0.2.vbr 0.0.2.vda 0.0.2.gbf
    0.0.2.kau 0.0.2.l87 0.0.2.sbm 0.0.2.ino 0.0.2.j9s 0.0.2.jcw 0.0.2.jve 0.0.2.lyb 0.0.2.mdl
    0.0.2.n0p 0.0.2.o22 0.0.2.ovo 0.0.2.pdb 0.0.2.s9y 0.0.2.q9a 0.0.2.sgz 0.0.2.t3e 0.0.2.g7r
    0.0.2.gbn 0.0.2.gql 0.0.2.ma0 0.0.2.r0i 0.0.2.re2 0.0.2.iq1 0.0.2.iyd 0.0.2.jnf 0.0.2.l9q
    0.0.2.oji 0.0.2.mt1 0.0.2.fl0 0.0.2.h6h 0.0.2.i5j 0.0.2.iii 0.0.2.izg 0.0.2.muq 0.0.2.mzt
    0.0.2.p7e 0.0.2.pc6 0.0.2.svo 0.0.2.tti 0.0.2.tvs 0.0.2.u1k 0.0.2.fpn 0.0.2.o1a 0.0.2.ss4
    0.0.2.trs 0.0.2.j4x 0.0.2.fie 0.0.2.fyy 0.0.2.i5q 0.0.2.i7z 0.0.2.k2h 0.0.2.kxu 0.0.2.mha
    0.0.2.ncy 0.0.2.q9o 0.0.2.sjg 0.0.2.vil 0.0.2.k94 0.0.2.tny 0.0.2.gax 0.0.2.kfv 0.0.2.kj7
    0.0.2.lkx 0.0.2.luk 0.0.2.mx5 0.0.2.n6h 0.0.2.nsb 0.0.2.opc 0.0.2.u3i 0.0.2.g31 0.0.2.je6
    0.0.2.tq0 0.0.2.fu3 0.0.2.ie1 0.0.2.lpm 0.0.2.sa2 0.0.2.ivf 0.0.2.j7o 0.0.2.kk7 0.0.2.mtj
    0.0.2.tqe 0.0.2.g89 0.0.2.glr 0.0.2.i91 0.0.2.k5v 0.0.2.kem 0.0.2.ko8 0.0.2.lid 0.0.2.mx2
    0.0.2.naa 0.0.2.p6h 0.0.2.r0v 0.0.2.r1d 0.0.2.sss 0.0.2.tsy 0.0.2.gfz 0.0.2.lve 0.0.2.gm5
    0.0.2.mhc 0.0.2.n14 0.0.2.qgq 0.0.2.tr7 0.0.2.uvr 0.0.2.vbz 0.0.2.kgn 0.0.2.lor 0.0.2.pns
    0.0.2.o97 0.0.2.obk 0.0.2.olu 0.0.2.mo0 0.0.2.m8p 0.0.2.riw 0.0.2.fk0 0.0.2.px2 0.0.2.g8q
    0.0.2.g7b 0.0.2.ip2 0.0.2.jir 0.0.2.onq 0.0.2.i2t 0.0.2.ljy 0.0.2.kac 0.0.2.saj 0.0.2.qx8
    0.0.2.tot 0.0.2.r63 0.0.2.iqb 0.0.2.g1s 0.0.2.gxs 0.1.0 0.0.2.hga 0.0.0 0.0.2.k8k 0.1.0
    0.0.2.g66 0.0.2.mqy 0.0.2.ngq 0.0.2.ny4 0.0.2.nz2 0.0.2.nz9 0.0.2.o0f 0.0.2.tw6 0.0.2.on2
    0.0.2.p8d 0.0.0 0.0.2.qhe 0.0.0 0.0.2.rg8 0.1.0 0.0.2.shk 0.0.2.sn1 0.2.0 0.0.2.u7j 0.0.2.u7w
    0.0.2.u94 0.0.2.v5g 0.0.2.sm6 0.0.2.trr 0.0.2.fqm 0.0.2.fzb 0.0.2.g25 0.0.2.gcp 0.0.2.gdg
    0.0.2.ggh 0.0.2.gwt 0.0.2.gzq 0.0.2.h2g 0.0.2.hfk 0.0.2.hig 0.0.2.i90 0.0.2.i9a 0.0.2.j2s
    0.0.2.j8o 0.0.2.j9q 0.0.2.jci 0.0.2.k0f 0.0.2.k4i 0.0.2.k9d 0.0.2.kn9 0.0.2.lmf 0.0.2.lqy
    0.0.2.lya 0.0.2.mem 0.0.2.mjv 0.0.2.mxu 0.0.2.ntd 0.0.2.ny6 0.0.2.nyh 0.0.2.nyg 0.0.2.nyo
    0.0.2.nyu 0.0.2.nz1 0.1.2.o0d 0.0.2.o5c 0.0.2.o75 0.0.2.og0 0.0.2.ovo 0.0.2.ow9 0.0.2.oxt
    0.0.2.p6a 0.0.2.pad 0.0.2.pnx 0.1.1.prt 0.0.2.q53 0.0.2.r2o 0.0.2.r6e 0.0.2.rgh 0.0.2.ri1
    0.0.2.rtf 0.0.2.ruw 0.0.2.sdy 0.0.2.shk 0.0.2.tsz 0.0.2.u0v 0.0.2.u2j 0.0.2.j1x 0.0.2.36cu
    0.0.2.pp4 2.0.2.ffq 0.0.2.g51 0.0.2.g2w 0.0.2.fpc 0.0.2.g1x 0.0.2.g3k 0.0.2.gcn 0.0.2.ge2
    0.0.2.gwt 0.0.2.gut 0.0.2.gwp 0.0.2.gyq 0.0.2.hga 0.0.2.hir 0.0.2.hms 0.0.2.hn8 0.0.2.huq
    0.0.2.i08 0.0.2.iqa 0.0.2.iqh 0.0.2.iuh 0.0.2.iwd 0.0.2.j4o 0.0.2.j7y 0.0.2.j60 0.0.2.j9q
    0.0.2.j8g 0.0.2.jci 0.0.2.jec 0.0.2.jpg 0.0.2.jrw 0.0.2.jte 0.0.2.k0m 0.0.2.k8k 0.0.2.kd3
    0.0.2.kd7 0.0.2.keu 0.0.2.l89 0.0.2.la2 0.0.2.lkx 0.0.2.lwb 0.0.2.lvv 0.0.2.lya 0.0.2.m5a
    0.0.2.mem 0.0.2.nmv 0.0.2.mk5 0.0.2.mnj 0.0.2.mqy 0.0.2.n01 0.0.2.n46 0.0.2.n5n 0.0.2.nbx
    0.0.2.nbz 0.0.2.ngq 0.0.2.nh7 0.0.2.nhw 0.0.2.nka 0.0.2.nk0 0.0.2.nv0 0.0.2.o8h 0.0.2.og0
    0.0.2.ol7 0.0.2.orf 0.0.2.ovo 0.0.2.p4u 0.0.2.pad 0.0.2.pxu 0.0.2.q27 0.0.2.qrd 0.0.2.r41
    0.0.2.r5y 0.0.2.r6e 0.0.2.ren 0.0.2.rg8 0.0.2.rez 0.0.2.rgh 0.0.2.rge 0.0.2.rfx 0.0.2.ri1
    0.0.2.rka 0.0.2.ruw 0.0.2.sag 0.0.2.sj6 0.0.2.srd 0.0.2.sxi 0.0.2.tq4 0.0.2.tsz 0.0.2.tw6
    0.0.2.tzv 0.0.2.u0v 0.0.2.u17 0.0.2.u2j 0.0.2.umq 0.0.2.vj0 0.0.2.313e 0.0.2.3138 0.0.2.33dh
    0.0.2.brx 0.0.2.cns 0.0.2.cop 0.0.2.39e1 0.0.2.3bgw 0.0.2.3i6r 0.0.2.vgj 0.0.2.vim
    12.0.1.2u.2u 0.0.1.2u.2x 0.0.1.2u.30 0.0.1.2u.2u.2x 0.0.1.2u.2u.30 0.1.1.37.38 c.0.1.12s.12u
    0.0.1.12s.12d 0.0.1.12s.12j 0.0.1.132.12u 0.0.1.12s.12l 5.0.1.15l.14k 0.0.0 0.0.1.16a.14n
    0.0.2.15u 0.0.2.15c 0.1.2.15f 0.2.2.15n 0.0.2.160 0.0.2.162 0.0.2.17 0.0.1.161.14x
    0.0.1.161.14y 0.0.1.161.14s.14x 0.0.1.161.14s.14y 0.0.1.15c.14n 0.0.1.15c.14o 0.0.1.15c.14s
    0.0.1.15d.14s 0.0.1.15e.14s 0.0.1.15f.14s 0.0.1.15g.14s 0.0.1.15h.14s 0.0.1.15i.14s
    1.0.1.15k.14s 0.0.1.15l.14s 0.0.1.15m.14s 0.0.1.15n.14s 0.0.1.15o.14s 1.0.1.15q.14s
    1.0.1.15s.14s 0.0.1.15t.14s 1.0.1.15v.14s 0.0.1.15w.14s 1.0.1.15y.14s 0.0.1.15z.14s
    0.0.1.160.14s 0.0.1.161.14s 0.0.1.162.14s 0.0.1.15h.14p 0.0.1.15d.14v 0.0.1.15n.14v
    0.0.1.15w.14v 0.0.1.15c.15o 0.1.1.19t 0.3.1.1a3 0.3.1.1a6 0.3.1.1a8 0.3.1.1a2 0.3.1.1a7
    0.3.1.1a1 0.3.1.1b8 0.3.1.1ba 0.3.1.1ac 0.3.1.1ab 0.3.1.1ae 0.3.1.1af 0.1.1.1al 0.1.1.1ak
    0.1.1.1am 0.1.1.1ag 0.1.1.1aw 0.1.1.1ap 0.3.1.1bd 0.3.1.1bj 0.3.1.1bn 0.3.1.1bl 0.1.1.1bu
    0.3.1.1bv 0.1.1.1c0 0.3.1.1c1 0.3.1.1by 0.1.1.1ci 0.1.1.1cj 0.w.0 0.3.1.1bh 0.1.1.1c7
    0.1.1.1c6 0.1.1.1c8 0.0.1.1c7.19w 0.1.1.1cb 0.1.1.1c5 0.1.1.1c9 0.3.1.1cg 0.1.1.18p
    0.1.1.17q.17r 0.1.1.17q.1cl 0.1.1.17q.18o 0.1.1.17q.1c7 0.1.1.17q.1c6 0.1.1.17q.1c8
    0.2.1.17q.1cg 0.2.1.17q.18p 0.3.1.1cc 0.0.1.17q.17w 0.0.1.17q.17x 0.0.1.17q.18l 0.0.1.17q.18p
    0.0.1.17q.18q 0.0.1.17s.17w 0.0.1.17s.17x 0.0.1.17s.17y 0.0.1.17s.18l 0.0.1.17s.18p
    0.0.1.17s.18q 0.0.1.17u.17w 0.0.1.17u.17x 0.0.1.17u.17y 0.0.1.17u.18l 0.0.1.17u.18p
    0.0.1.17u.18q 0.0.1.17v.17w 0.0.1.17v.18l 0.0.1.17v.18p 0.0.1.17v.18q 0.0.1.17w.17x
    0.0.1.17w.18l 0.0.1.17x.17w 0.0.1.17x.18l 0.0.1.17y.17w 0.0.1.17y.17x 0.0.1.17y.18l
    0.0.1.183.17w 0.0.1.183.17x 0.0.1.183.17y 0.0.1.183.18l 0.0.1.185.17x 0.0.1.185.18l
    0.0.1.186.17w 0.0.1.186.17x 0.0.1.186.17y 0.0.1.186.18l 0.0.1.187.17x 0.0.1.187.18l
    0.0.1.188.18l 0.0.1.189.17w 0.0.1.189.18l 0.0.1.18a.17w 0.0.1.18a.18l 0.0.1.18h.17w
    0.0.1.18h.17x 0.0.1.18h.17y 0.0.1.18h.18l 0.0.1.18h.18p 0.0.1.18h.18q 0.0.1.18i.17x
    0.0.1.18i.18l 0.0.1.18i.18p 0.0.1.18i.18q 0.0.1.18j.17r 0.0.1.18j.17w 0.0.1.18j.17x
    0.0.1.18j.17y 0.0.1.18j.18k 0.0.1.18j.18l 0.0.1.18j.18p 0.0.1.18j.18q 0.0.1.18k.17w
    0.0.1.18k.17x 0.0.1.18k.17y 0.0.1.18k.18l 0.0.1.18k.18p 0.0.1.18k.18q 0.0.1.18l.17w
    0.0.1.18l.17x 0.0.1.18l.17y 0.0.1.18l.18l 0.0.1.18l.18p 0.0.1.18l.18q 0.0.1.18m.17w
    0.0.1.18m.17x 0.0.1.18m.17y 0.0.1.18m.18l 0.0.1.18m.18p 0.0.1.18m.18q 0.0.1.18n.17w
    0.0.1.18n.18l 0.0.1.18n.18p 0.0.1.18n.18q 0.0.1.18q.17w 0.0.1.18q.17x 0.0.1.18q.17y
    0.0.1.18q.18l 0.0.1.18q.18p 0.0.1.18q.18q 0.0.1.180.19s 0.0.1.181.19s 0.0.1.18p.19s
    0.0.1.w.18s.18x 0.0.1.w.18t.18x 0.0.1.w.18u.18x 0.0.1.w.18v.18x 0.0.1.w.18w.18x
    0.0.1.w.18x.19s 0.0.1.17q.181 0.0.1.17q.182 0.0.1.17q.18l 0.0.1.17q.18m 0.0.1.17q.18p
    0.0.1.17q.18q 0.0.1.17s.181 0.0.1.17s.182 0.0.1.17s.18l 0.0.1.17s.18m 0.0.1.17s.18p
    0.0.1.17s.18q 0.0.1.17u.181 0.0.1.17u.182 0.0.1.17u.18l 0.0.1.17u.18m 0.0.1.17u.18p
    0.0.1.17u.18q 0.0.1.17v.181 0.0.1.17v.182 0.0.1.17v.18l 0.0.1.17v.18m 0.0.1.17v.18p
    0.0.1.17v.18q 0.0.1.18h.18p 0.0.1.18h.18q 0.0.1.18i.18p 0.0.1.18i.18q 0.0.1.18j.17r
    0.0.1.18j.18k 0.0.1.18j.18l 0.0.1.18j.18p 0.0.1.18j.18q 0.0.1.18k.18l 0.0.1.18k.18p
    0.0.1.18k.18q 0.0.1.18l.17r 0.0.1.18l.18l 0.0.1.18m.181 0.0.1.18m.182 0.0.1.18m.18l
    0.0.1.18m.18m 0.0.1.18m.18p 0.0.1.18m.18q 0.0.1.18p.19s 0.0.1.18q.181 0.0.1.18q.182
    0.0.1.18q.18l 0.0.1.18q.18m 0.0.1.18q.18p 0.0.1.18q.18q 0.0.1.17q.17w 0.0.1.17q.17x
    0.0.1.17q.17y 0.0.1.17q.18l 0.0.1.17q.18n 0.0.1.17s.17w 0.0.1.17s.17x 0.0.1.17s.17y
    0.0.1.17s.18l 0.0.1.17s.18n 0.0.1.17u.17w 0.0.1.17u.17x 0.0.1.17u.17y 0.0.1.17u.18l
    0.0.1.17u.18n 0.0.1.17v.18l 0.0.1.17w.17x 0.0.1.17w.18l 0.0.1.17x.17w 0.0.1.17x.18l
    0.0.1.17y.17w 0.0.1.17y.18l 0.0.1.183.17w 0.0.1.183.17x 0.0.1.183.17y 0.0.1.183.18l
    0.0.1.185.17x 0.0.1.185.17y 0.0.1.185.18l 0.0.1.186.17w 0.0.1.186.17x 0.0.1.186.17y
    0.0.1.186.18l 0.0.1.187.17x 0.0.1.188.18l 0.0.1.189.17w 0.0.1.189.18l 0.0.1.18a.17w
    0.0.1.18a.18l 0.0.1.18h.17w 0.0.1.18h.17x 0.0.1.18h.17y 0.0.1.18h.18l 0.0.1.18i.17x
    0.0.1.18i.18l 0.0.1.18j.17w 0.0.1.18j.17x 0.0.1.18j.17y 0.0.1.18j.18k 0.0.1.18j.18l
    0.0.1.18k.17w 0.0.1.18k.17x 0.0.1.18k.17y 0.0.1.18k.18l 0.0.1.18k.18n 0.0.1.18l.17w
    0.0.1.18l.17x 0.0.1.18l.17y 0.0.1.18l.18l 0.0.1.18m.17w 0.0.1.18m.17x 0.0.1.18m.17y
    0.0.1.18m.18l 0.0.1.18m.18n 0.0.1.18n.17w 0.0.1.18n.18l 0.0.1.18n.19s 0.0.1.18q.17w
    0.0.1.18q.17x 0.0.1.18q.17y 0.0.1.18q.18l 0.0.1.18q.18n 0.0.1.17q.18l 0.0.1.17q.18n
    0.0.1.17s.18l 0.0.1.17s.18n 0.0.1.17u.18l 0.0.1.17u.18n 0.0.1.17v.18l 0.0.1.17v.18n
    0.0.1.183.18l 0.0.1.183.18n 0.0.1.184.18l 0.0.1.184.18n 0.0.1.18j.18k 0.0.1.18j.18l
    0.0.1.18k.18l 0.0.1.18m.18l 0.0.1.18m.18n 0.0.1.18q.18l 0.0.1.18q.18n 0.0.1.18g.18u.18x
    0.0.1.18g.18v.18x 0.0.1.18g.18w.18x 0.0.1.187.18p 0.0.1.187.18q 0.0.1.189.18p 0.0.1.189.18q
    0.0.1.18a.18p 0.0.1.18a.18q 0.0.1.183.18p 0.0.1.183.18q 0.0.1.184.18p 0.0.1.184.18q
    0.0.1.17x.18p 0.0.1.17x.18q 0.0.1.17w.18p 0.0.1.17w.18q 0.0.1.17y.18p 0.0.1.17y.18q
    0.0.1.185.18p 0.0.1.185.18q 0.0.1.186.18p 0.0.1.186.18q 0.0.1.184.17w 0.0.1.184.17x
    0.0.1.184.17y 0.0.1.184.18l 0.0.1.184.181 0.0.1.183.181 0.0.1.185.181 0.0.1.186.181
    0.0.1.187.18p 0.0.1.187.18q 0.0.1.189.18p 0.0.1.189.18q 0.0.1.18a.18p 0.0.1.18a.18q
    0.0.1.183.18p 0.0.1.183.18q 0.0.1.184.18p 0.0.1.184.18q 0.0.1.17x.18p 0.0.1.17x.18q
    0.0.1.17w.18p 0.0.1.17w.18q 0.0.1.17y.18p 0.0.1.17y.18q 0.0.1.185.18p 0.0.1.185.18q
    0.0.1.186.18p 0.0.1.186.18q 0.0.1.184.17w 0.0.1.184.17x 0.0.1.184.17y 0.0.1.184.18l
    0.0.1.184.181 0.0.1.183.181 0.0.1.185.181 0.0.1.186.181 0.0.1.184.17w 0.0.1.184.17x
    0.0.1.184.17y 0.0.1.184.18l 0.0.1.183.18n 0.0.1.184.18n 0.0.1.187.18l 0.0.1.183.17w
    0.0.1.183.17x 0.0.1.183.17y 0.0.1.184.17w 0.0.1.184.17x 0.0.1.184.17y 0.0.1.187.18l
    0.0.1.188.18l 0.1.1.17r.18r 0.h.0 0.0.1.17u.17w.18l 0.1.1.17u.17x.17w 0.0.1.17u.17x.18l
    0.0.1.17u.17y.18l 0.0.1.17u.18l.17w 0.0.1.17u.18l.17x 0.0.1.17u.18l.17y 0.1.1.17w.18l.17x
    0.0.1.17x.18l.18q 0.0.1.17x.18l.18p 0.0.1.183.17x.17w 0.0.1.183.17w.17x 0.0.1.183.17w.18p
    0.1.1.183.18l.17x 0.0.1.183.18l.17w 0.1.1.183.18l.18l 0.1.1.185.17x.17x 0.0.1.185.18l.18l
    0.1.1.184.17x.18l 0.0.1.184.17w.18q 0.1.1.184.18l.17y 0.1.1.184.18l.18l 0.0.1.186.17x.18p
    0.1.1.186.17y.18l 0.1.1.187.18l.17x 0.0.1.187.18l.18l 0.0.1.187.18l.18q 0.0.1.189.17w.18l
    0.1.1.189.18l.18l 0.0.1.189.18l.18p 0.0.1.18a.18l.18l 0.0.1.18a.18l.18q 0.0.1.18a.18l.18p
    0.1.1.18h.17y.18l 0.0.1.18i.18l.17x 0.0.1.18i.18l.18l 0.0.1.18k.17x.18l 0.0.1.18k.17x.18q
    0.0.1.18k.17x.18p 0.1.1.18k.17w.17w 0.1.1.18k.17y.18l 0.1.1.18k.18l.17x 0.0.1.18l.17x.17w
    0.0.1.18l.17x.18l 0.0.1.18l.17x.18q 0.0.1.18l.17w.17x 0.0.1.18l.17w.18l 0.0.1.18l.17y.17w
    0.0.1.18l.17y.18l 0.1.0 0.0.1.18l.17w.17y 0.0.1.18n.18l.17w 0.0.1.18n.18l.18l
    0.0.1.18m.17x.18l 0.0.1.18m.17x.18p 0.1.1.18m.17w.18l 0.0.1.18m.17w.18p 0.0.1.18m.18l.18q
    0.0.1.18m.18l.18p 0.1.1.18q.18l.18l 0.0.1.17s.17y.18q 0.0.1.17u.17w.18q 0.0.1.17u.17w.18p
    0.0.1.17u.17y.18q 0.0.1.17u.17y.18p 0.0.1.17u.18l.18q 0.0.1.17u.18l.18p 0.0.1.17w.18l.18q
    0.0.1.17w.17x.18p 0.0.1.17w.18l.18p 0.0.1.183.17y.18p 0.0.1.185.17x.18q 0.0.1.184.17x.18q
    0.0.1.186.17x.18q 0.0.1.18k.17w.18q 0.0.1.18k.18l.18q 0.0.1.18q.17x.18q 0.0.1.18q.17w.18q
    0.0.1.18q.18l.18q 0.0.1.18l.18l.18q 0.0.1.18i.18l.18q 0.0.1.18m.17x.18q 0.0.1.18i.18l.17x
    0.0.1.18k.17x.18l 0.0.1.189.18l.18q 0.0.1.18j.18l.18q 0.0.1.18m.17w.17x 0.0.1.18l.17y.18q
    0.0.1.18k.17w.18l 0.0.1.18j.18l.18l 0.0.1.18k.17w.18l 0.0.1.18m.17w.17x 0.0.1.17w.17x.18q
    0.0.1.17x.17w.18q 0.0.1.18l.17w.18q 0.0.1.18h.18l.18q 0.0.1.17s.17x.18q 0.0.1.18j.18l.18l
    0.0.1.189.17w.18l 0.0.1.185.18l.18l 0.0.1.183.17y.18q 0.0.1.18m.17w.18q 0.7.0
    w.0.1.185.18k.1ci 0.0.1.18i.18k.1ci 0.0.1.17r.18k.18k.18n 0.0.1.17r.18j.17s.181
    0.0.1.18l.17x.18l.17z 0.0.1.185.18k.189.18l 0.0.1.181.183.18o.18k 0.0.1.189.18k.18q.18n
    0.0.1.18o.183.18k.18l 0.0.1.185.18k.18p
    0.0.1.185.18k.18p.w.17r.18k.18k.18n.w.189.18k.18q.18n.w.18o.183.18k.18l
    0.0.1.17w.18k.w.17w.18k.17r.18k.18n 0.0.1.181.1cc.17r.18k 0.2.0 0.f.1 0.0.2.18 0.0.2.9hd
    1.1.2.1m 0.0.2.x 0.0.2.1r 0.1.2.9hy 7.f.0 1.0.2.6c4 0.0.2.6c3 0.1.1.2n 0.1.2.14 0.0.2.3f
    0.0.2.3h 0.1.2.9hw 0.1.2.9hs 0.1.2.9hm 0.1.2.9hk 0.3.2.9ho 0.1.0 0.0.2.2j 0.0.2.2l 0.3.1.w.lh
    0.2.1.2n 0.0.2.18 0.0.2.9hd 2.0.2.1n 0.0.2.1m 0.0.2.1r 0.0.2.x 0.0.2.6c4 0.1.2.14 0.0.2.3f
    0.0.2.3h 0.1.2.9hw 0.0.2.z 0.0.2.12 0.1.2.16 0.0.2.19 0.0.2.1o 0.0.2.1q 0.0.2.1p 1.0.2.2k
    0.1.2.10 0.0.2.1s 4.0.1.w.18r 0.0.1.18g.18r 0.0.1.w.18s 0.0.0 0.0.1.w.18t 1.0.1.w.18u
    0.0.1.18g.18u 0.0.1.w.18v 0.0.1.18g.18v 0.0.1.w.18w 0.0.1.18g.18w 0.0.1.w.18x 0.0.1.18g.18x
    0.0.1.w.18y 0.0.1.18g.18y 0.1.2.17l 0.1.2.17m 0.1.2.17n 0.1.2.17o 0.1.2.17p 0.2.1.17q
    0.1.1.17r 0.3.1.17s 0.1.1.17t 0.3.1.17u 0.3.1.17v 0.3.1.17w 0.3.1.17x 0.3.1.17y 0.1.1.17z
    0.1.1.180 0.1.1.181 0.1.1.182 0.3.1.183 0.3.1.184 0.3.1.185 0.3.1.186 0.3.1.187 0.3.1.188
    0.3.1.189 0.3.1.18a 0.3.1.18h 0.3.1.18i 0.3.1.18j 0.3.1.18k 0.3.1.18l 0.3.1.18m 0.3.1.18n
    0.1.1.18o 0.1.1.18p 0.3.1.18q 0.1.1.18k.17m 0.1.1.18k.17n 0.1.1.18k.17p 0.1.1.18k.17r 2.0.1
    1.v.2.x 0.p.2.2p 0.z.2.2j 0.1.2.879 0.0.2.1a 0.1.2.9ho 0.0.2.9hd 0.0.2.9ob 0.0.2.9o2 0.0.2.9lt
    0.0.2.9lv 0.0.2.9lx 0.0.2.9lz 0.0.2.9m1 0.0.2.9nn 0.0.2.9np 0.0.2.9nr 0.0.2.9mr 0.0.2.9oc
    0.0.2.9lu 0.0.2.9lw 0.0.2.9ly 0.0.2.9m0 0.1.2.9m2 0.0.2.9m5 0.0.2.9m7 0.0.2.9m9 0.0.2.9mb
    0.0.2.9md 0.0.2.9mf 0.0.2.9mh 0.0.2.9mj 0.0.2.9ml 0.0.2.9mn 0.0.2.9mp 0.0.2.9ms 0.0.2.9mu
    0.0.2.9mw 0.5.2.9my 0.0.2.9n6 0.0.2.9n9 0.0.2.9nc 0.0.2.9nf 0.4.2.9ni 0.0.2.9no 0.0.2.9nq
    0.5.2.9ns 0.0.2.9nz 0.0.2.9o3 0.1.2.9ll 0.0.1 0.1.2.3cw 0.0.2.3hm 0.0.2.3cy 0.1.2.3ho
    0.2.2.3cz 0.5.2.3hs 0.0.2.3dm 0.2.2.3d2 0.0.2.3dt 0.9.2.3d5 3.5.2.3fl 2.5.2.3fr 2.5.2.3fx
    2.2.2.3g3 3.1.2.4i 0.0.2.4s 0.0.1.w.lg 0.0.2.4m 0.0.2.4l 0.0.2.6g9 1.0.2.7b6 0.3.2.6mo
    0.0.2.7fk 0.0.2.7gr h.b.0 1.p.0 1.i.0 1.1.0 1.e.0 2.d.0 y.3e.0 5.2.0 4.18.0 3.2f.0 1.c.0 3.0.0
    1b.19.0 3m.s.0 3.1c.0 f.r.0 4.z.0 9.t.0 5.16.0 5.t.0 1.10.0 4.d.0 16.13.2.1fe0 0.39.0 2.9.0
    6.z.2.1fiw 4.z.0 4.13.0 8.1f.0 b.0.0 0.a.2.1fo7 1.e.2.1foj 1.6.2.1foz 1.1.2.1fp7 1.a.0 1.e.0
    1.6.0 1.1.0 3.1f.0 c.8m.0 9.l.0 a.7.0 o.0.0 0.1.2.k0 0.0.2.6e 0.0.2.ih 0.0.2.gj 1.0.2.ir
    0.0.2.xuu 0.0.2.it 0.0.2.is 0.1.2.gm 0.0.2.5u9 0.0.2.go 0.0.2.gu 0.0.2.ix 0.0.2.h0 0.0.2.gy
    0.0.2.gw 0.0.2.ij 0.0.2.87 0.0.2.ik 0.0.2.h3 0.0.2.hw 0.1.2.iy 0.0.2.h8 0.0.2.2mmc 0.0.2.x3i
    0.0.2.ha 0.0.2.2mmd 0.0.2.i6 0.0.2.2mme 0.0.2.6w 0.1.2.hi 0.0.2.35 0.0.2.hm 0.0.2.2mmg
    0.1.2.hp 0.0.2.hs 0.0.2.iw 0.0.2.iu 0.0.2.xuv 0.0.2.iv 0.0.2.i0 0.0.2.8s1 1.0.2.i7 0.1.2.ip
    0.0.2.ig 0.2.2.cg 0.0.2.2mmi 0.0.2.2mn2 1x.5.0 2.0.0 1.17.0 1.1.0 3.0.0 2.m.0 1.1z.0 8.8.0
    1c.i.0 1.1.0 5.w.0 3.q.0 5.q.0 12.1j.0 4.j.0 2.1d.0 1.1.0 5.7.0 1.2.0 1.s.0 2.2.0 4.9.0 7.8.0
    7.1r.0 w.12.0 4.b.0 9.1h.0 3.s.0 2.q.0 5.p.0 7.3.0 c.6.0 28.20.0 1j.1e.2.1h34 d.1e.0 7.19.0
    8.9.0 6.f.0 0.l.2.1h80 3.s.0 8.1.0 5s.u.0 1.15.0 1.2.0 2.1.0 g.5.0 8.8.0 x.19.0 8.15.0 m.p.0
    12.r.0 k.m.0 9.25.0 4.z.0 9.1p.0 1.4.0 d.o.0 7.9.0 6.1g.0 1.h.0 8.12.0 9.2n.0 1.j.0 b.h.0
    1.1a.0 1q.6.0 1.0.0 1.3.0 1.e.0 1.a.0 6.1m.0 5.9.0 6.3.0 1.7.0 2.1.0 2.l.0 1.6.0 1.1.0 1.4.0
    1.9.0 2.1.0 2.2.0 2.0.0 6.0.0 5.6.0 2.6.0 3.4.0 b.9.0 1.0.0 2.0.0 1.11.0 1.9.0 1.0.0 2.0.0
    1.3.0 1.9.0 1.1.0 8.1.0 t.2j.0 1.4.0 u.1z.0 8.9.0 4m.1h.0 2.11.0 y.1w.0 b.9.0 6.c.0 j.1l.0
    6.9.0 6.j.0 s.q.0 2.e.0 4.m.0 55.1n.0 2s.v.2.1jgg 0.1e.0 c.7.0 2.0.0 2.7.0 1.1.0 1.t.0 1.1.0
    2.b.0 9.9.0 1y.7.0 2.19.0 2.a.0 r.1z.0 8.2a.0 d.20.0 7.9.0 2e.7.0 2g.x.0 e.9.0 6.8.0 1.18.0
    1.d.0 a.s.0 3.v.0 2.l.0 1.d.0 21.6.0 1.1.0 1.17.0 3.0.0 1.1.0 1.8.0 8.9.0 6.5.0 1.1.0 1.10.0
    1.1.0 1.5.0 7.9.0 6.17.0 4.9.0 6u.o.0 7.g.0 1.14.0 3.s.0 2d.0.0 f.1d.0 d.pm.0 2u.32.0 1.4.0
    b.5f.0 218.2q.0 d.tr.0 g.l.0 a.32y.0 5.g6.0 5a1.1l.0 1c6.fs.0 7.u.0 1.9.0 4.28.0 1.9.0 6.t.0
    2.5.0 a.1x.0 a.9.0 1.6.0 1.k.0 5.i.0 c0.1l.0 5i.v.2.20dc 0.1m.0 5.o.2.20fv 2.o.0 18.22.0
    4.1k.0 7.g.0 1s.4.0 b.6.0 9.5p1.0 15.v.0 2p.36.0 6pp.3.0 1.6.0 1.1.0 1.82.0 f.0.0 t.2.0 2.0.0
    e.3.0 8.az.0 1s4.2y.0 5.c.0 3.8.0 7.9.0 2.3.0 0.3.1 318.5x.0 0.p.2.2p 0.9.2.1c 0.2.0 3.c3.0
    6.m.0 f.g.0 f.19.0 2.m.0 9.37.0 1o.6t.0 a.12.0 2.1g.0 0.0.1.2jx3.2jxh 0.0.1.2jx4.2jxh
    0.0.1.2jx4.2jxh.2jxq 0.0.1.2jx4.2jxh.2jxr 0.0.1.2jx4.2jxh.2jxs 0.0.1.2jx4.2jxh.2jxt
    0.0.1.2jx4.2jxh.2jxu 0.d.0 0.7.1 0.1r.0 0.0.1.2jzt.2jxh 0.0.1.2jzu.2jxh 0.0.1.2jzt.2jxh.2jxq
    0.0.1.2jzu.2jxh.2jxq 0.0.1.2jzt.2jxh.2jxr 0.0.1.2jzu.2jxh.2jxr 0.15.0 l.1x.0 3e.j.0 c.j.0
    c.2e.0 9.o.0 3r.p.2.2p 0.p.2.2p 0.p.2.2p 0.6.2.2p 1.h.2.2x 0.p.2.2p 0.p.2.2p 0.0.2.2p 1.1.2.2r
    2.0.2.2v 2.1.2.2y 2.3.2.32 1.7.2.37 0.3.2.2p 1.0.2.2u 1.6.2.2w 1.a.2.34 0.p.2.2p 0.p.2.2p
    0.1.2.2p 1.3.2.2s 2.7.2.2y 1.6.2.37 1.p.2.2p 0.1.2.2p 1.3.2.2s 1.4.2.2x 1.0.2.33 3.6.2.37
    1.p.2.2p 0.p.2.2p 0.p.2.2p 0.p.2.2p 0.p.2.2p 0.p.2.2p 0.p.2.2p 0.p.2.2p 0.p.2.2p 0.p.2.2p
    0.p.2.2p 0.p.2.2p 0.p.2.2p 0.0.2.8h 0.0.2.fr 2.g.2.q9 0.0.2.qg 0.6.2.qr 0.0.2.6pz 0.g.2.q9
    0.1.1.qr 0.5.2.qs 0.0.2.6pu 0.0.2.qd 0.0.2.qg 0.0.2.qi 0.0.2.qu 0.0.2.qp 0.0.2.qo 0.g.2.q9
    0.0.2.qg 0.6.2.qr 0.0.2.6pz 0.g.2.q9 0.1.1.qr 0.5.2.qs 0.0.2.6pu 0.0.2.qd 0.0.2.qg 0.0.2.qi
    0.0.2.qu 0.0.2.qp 0.0.2.qo 0.g.2.q9 0.0.2.qg 0.6.2.qr 0.0.2.6pz 0.g.2.q9 0.1.1.qr 0.5.2.qs
    0.0.2.6pu 0.0.2.qd 0.0.2.qg 0.0.2.qi 0.0.2.qu 0.0.2.qp 0.0.2.qo 0.g.2.q9 0.0.2.qg 0.6.2.qr
    0.0.2.6pz 0.g.2.q9 0.1.1.qr 0.5.2.qs 0.0.2.6pu 0.0.2.qd 0.0.2.qg 0.0.2.qi 0.0.2.qu 0.0.2.qp
    0.0.2.qo 0.g.2.q9 0.0.2.qg 0.6.2.qr 0.0.2.6pz 0.g.2.q9 0.1.1.qr 0.5.2.qs 0.0.2.6pu 0.0.2.qd
    0.0.2.qg 0.0.2.qi 0.0.2.qu 0.0.2.qp 0.0.2.qo 0.1.1.rh 2.9.2.1c 0.9.2.1c 0.9.2.1c 0.9.2.1c
    0.9.2.1c 0.i3.0 f.4.0 1.e.0 uo.u.0 6.5.0 5x.6.0 1.g.0 2.6.0 1.1.0 1.4.0 5.8.2.ts 0.2.2.u2
    0.a.2.u6 0.0.2.uj 0.1.2.ul 0.0.2.ww9 0.0.2.yh 0.0.2.uu 0.0.2.uw 0.0.2.yx 0.0.2.xb 0.0.2.y7
    0.8.2.ts 0.1.2.u2 0.1.2.u6 0.0.2.u9 0.5.2.ub 0.1.2.ui 0.0.2.wh 0.0.2.uu 0.0.2.ut 0.0.2.v3
    0.0.2.x7 0.0.2.wup 0.0.2.xd x.0.0 34.18.0 3.d.0 2.9.0 4.1.0 8w.u.0 h.1l.0 5.0.0 cw.15.0
    5y.16.0 4.0.0 5c.u.0 1.l.0 8.1.0 68.6.0 1.3.0 1.1.0 1.e.0 1.5g.0 2.f.0 15.x.2.2oma 0.15.0
    4.9.0 4.1.0 lt.1v.0 24.1o.0 5e.1.2.17r 0.0.2.17w 0.0.2.17z 1.0.2.18o 0.0.2.182 0.0.2.17x
    0.0.2.187 0.0.2.18q 0.3.2.18j 0.0.2.183 0.0.2.189 0.0.2.18h 0.0.2.185 0.0.2.18i 0.0.2.181
    0.0.2.184 0.1.2.17u 0.0.2.17y 0.0.2.180 0.0.2.186 0.0.2.188 0.0.2.18a 0.0.2.19q 0.0.2.1bu
    0.0.2.1b5 0.0.2.19r 1.0.2.17s 0.0.2.17w 1.0.2.18n 2.0.2.17x 1.0.2.18q 0.3.2.18j 0.0.2.183
    0.0.2.189 0.0.2.18h 0.0.2.185 0.0.2.18i 1.0.2.184 0.1.2.17u 0.0.2.17y 1.0.2.186 1.0.2.18a
    6.0.2.17w 4.0.2.17x 1.0.2.18q 1.0.2.18k 1.0.2.18m 0.0.2.183 0.0.2.189 1.0.2.185 0.0.2.18i
    1.0.2.184 2.0.2.17y 1.0.2.186 1.0.2.18a 1.0.2.1bu 1.0.2.19r 1.0.2.17s 0.0.2.17w 1.0.2.18n
    2.0.2.17x 0.0.2.187 0.0.2.18q 0.0.2.18j 1.1.2.18l 0.0.2.183 0.0.2.189 0.0.2.18h 0.0.2.185
    0.0.2.18i 1.0.2.184 0.1.2.17u 0.0.2.17y 1.0.2.186 0.0.2.188 0.0.2.18a 0.0.2.19q 1.0.2.1b5
    1.1.2.17r 0.0.2.17w 0.0.2.17z 0.1.2.18n 0.0.2.182 0.0.2.17x 0.0.2.187 0.0.2.18q 1.2.2.18k
    0.0.2.183 0.0.2.189 0.0.2.18h 0.0.2.185 0.0.2.18i 0.0.2.181 0.0.2.184 0.1.2.17u 0.0.2.17y
    0.0.2.180 0.0.2.186 0.0.2.188 0.0.2.18a 5.0.2.17s 0.0.2.17w 0.0.2.17z 1.0.2.18o 0.0.2.182
    0.0.2.17x 0.0.2.187 0.0.2.18q 1.2.2.18k 0.0.2.183 0.0.2.189 0.0.2.18h 0.0.2.185 0.0.2.18i
    0.0.2.181 0.0.2.184 0.1.2.17u 0.0.2.17y 0.0.2.180 0.0.2.186 0.0.2.188 0.0.2.18a 1g.1.0 7i.17.0
    4.2r.0 c.e.0 2.e.0 1.e.0 1.10.0 b.0.1.1c.18 0.0.1.1d.18 0.0.1.1e.18 0.0.1.1f.18 0.0.1.1g.18
    0.0.1.1h.18 0.0.1.1i.18 0.0.1.1j.18 0.0.1.1k.18 0.0.1.1l.18 0.4.0 0.0.1.14.2p.15
    0.0.1.14.2q.15 0.0.1.14.2r.15 0.0.1.14.2s.15 0.0.1.14.2t.15 0.0.1.14.2u.15 0.0.1.14.2v.15
    0.0.1.14.2w.15 0.0.1.14.2x.15 0.0.1.14.2y.15 0.0.1.14.2z.15 0.0.1.14.30.15 0.0.1.14.31.15
    0.0.1.14.32.15 0.0.1.14.33.15 0.0.1.14.34.15 0.0.1.14.35.15 0.0.1.14.36.15 0.0.1.14.37.15
    0.0.1.14.38.15 0.0.1.14.39.15 0.0.1.14.3a.15 0.0.1.14.3b.15 0.0.1.14.3c.15 0.0.1.14.3d.15
    0.0.1.14.3e.15 0.0.1.9hw.37.9hx 0.0.2.2r 0.0.2.36 0.0.1.2r.2s 0.0.1.3b.3e 0.0.0 0.p.2.2p
    0.0.1.2w.3a 0.0.1.31.3a 0.0.1.37.2s 0.0.1.37.37 0.0.1.34.34.3a 0.0.1.3b.2r 0.p.0 0.0.1.31.2r
    0.0.1.31.2s 0.0.1.31.36 0.y.0 0.0.1.2s.2y 0.s.0 1k.p.0 0.0.1.9kr.9jf 0.0.1.9mb.9mb 0.0.2.9md
    d.0.2.jez 0.0.2.i1j 0.0.2.gjw 0.0.2.9mv 0.0.2.fik 0.0.2.hlm 0.0.2.r8j 0.0.2.hm1 0.0.2.fj8
    0.0.2.k68 0.0.2.mch 0.0.2.k2h 0.0.2.g99 0.0.2.ivg 0.0.2.g3x 0.0.2.k34 0.0.2.g7x 0.0.2.oqq
    0.0.2.n4v 0.0.2.rs9 0.0.2.hkg 0.0.2.gmx 0.0.2.lxw 0.0.2.jh1 0.0.2.jmd 0.0.2.feo 0.0.2.fex
    0.0.2.si2 0.0.2.ijq 0.0.2.ffx 0.0.2.gkz 0.0.2.jk7 0.0.2.rxs 0.0.2.jf7 0.0.2.o01 0.0.2.o6y
    0.0.2.glk 0.0.2.lts 0.0.2.kcp 0.0.2.kco 0.0.2.n5f 0.0.2.gaa 0.0.2.gxi 0.0.2.sp9
    4.0.1.9hw.kdo.9hx 0.0.1.9hw.fex.9hx 0.0.1.9hw.fik.9hx 0.0.1.9hw.i2x.9hx 0.0.1.9hw.m9l.9hx
    0.0.1.9hw.jf7.9hx 0.0.1.9hw.nh3.9hx 0.0.1.9hw.gd9.9hx 0.0.1.9hw.k0n.9hx 7.0.2.ivr 0.0.2.gkv
    e.5.0 4a.rc.0 3.g.0 3.c.0 3.61.0 6.b.0 4.0.0 f.b.0 4.1j.0 8.9.0 6.13.0 8.t.0 2.b.0 4.1.0 e.8.0
    13.9j.0 8.d.0 2.c.0 3.a.0 3.1k.0 1.0.0 4.f.0 2.b.0 4.9.0 7.42.0 1.2j.0 0.9.2.1c 0.0.0 sl.wyn.0
    w.3dp.0 2.4gd.0 2.5rk.0 f.h9.0 1wi.0.2.fgd 0.0.2.fg8 0.0.2.fgh 0.0.2.2tcy 0.0.2.fog 0.0.2.fqm
    0.0.2.fqz 0.0.2.fsy 0.0.2.fwa 0.0.2.fx5 0.0.2.fzb 0.0.2.fyn 0.0.2.ae6 0.0.2.2ud6 0.0.2.g25
    0.0.2.g2c 0.0.2.g2s 0.0.2.g3b 0.0.2.2u58 0.0.2.aex 0.0.2.g2v 0.0.2.g3x 0.0.2.2u6j 0.0.2.g47
    0.0.2.g4k 0.0.2.fkc 0.0.2.g4s 0.0.2.g51 0.0.2.3ly7 0.0.2.g6t 0.0.2.g77 0.0.2.afz 0.0.2.g8r
    0.0.2.g92 0.0.2.gaa 0.0.2.gaf 0.0.2.ahh 0.0.2.gcn 0.0.2.gcp 0.0.2.gdg 0.0.2.ge2 0.1.2.ged
    0.0.2.gev 0.0.2.gg9 0.0.2.ggh 0.0.2.ggq 0.0.2.ghf 0.0.2.ghp 0.2.1.ghr 0.0.2.2v58 0.0.2.m7k
    0.0.2.gju 0.0.2.gkf 0.0.2.2vdv 0.0.2.gkr 0.0.2.gkx 0.0.2.gli 0.0.2.gpq 0.0.2.gmw 0.0.2.gnc
    0.0.2.go8 0.0.2.gpu 0.0.2.gs6 0.0.2.gsw 0.0.2.gur 0.0.2.gv7 0.1.1.gw4 0.0.2.gwp 0.0.2.gx7
    0.0.2.gxf 0.0.2.gxu 0.0.2.h7a 0.0.2.gzq 0.0.2.h7b 0.0.2.h1t 0.0.2.h2s 0.0.2.g7b 0.0.2.hke
    0.0.2.hce 0.0.2.hdg 0.0.2.he5 0.0.2.haj 0.0.2.hf6 0.0.2.hf5 0.0.2.hik 0.0.2.2x9g 0.0.2.hki
    0.0.2.hkn 0.0.2.hl2 0.0.2.hlm 0.0.2.hlu 0.0.2.hnm 0.0.2.2xm0 0.0.2.2xnu 0.0.2.hrg 0.0.2.hsr
    0.0.2.ht3 0.0.2.hqw 0.0.2.huu 0.0.2.aum 0.0.2.av0 0.0.2.hzc 0.1.1.i0u 0.0.2.2y88 0.0.2.i4j
    0.0.2.i54 0.0.2.i5j 0.0.2.i5v 0.0.2.2yhk 0.0.2.i67 0.0.2.i6e 0.0.2.itv 0.0.2.i76 0.0.2.ayp
    0.0.2.i8w 0.0.2.i9a 0.0.2.ibk 0.0.2.ia5 0.0.2.2z1g 0.0.2.if7 0.0.2.2z1i 0.0.2.ige 0.0.2.igb
    0.0.2.igs 0.1.2.ijl 0.0.2.b3j 0.0.2.ikd 0.0.2.ilk 0.0.2.im5 0.0.2.ind 0.0.2.b4y 0.0.2.2zr7
    0.0.2.b5o 0.0.2.ipc 0.0.2.ipf 0.0.2.ipi 0.0.2.iq2 0.0.2.3pg2 0.0.2.iri 0.1.1.3035 0.0.2.poh
    0.1.1.isi 0.0.2.b7r 0.0.2.335k 0.0.2.3cgq 0.0.2.iua 0.0.2.iuj 0.0.2.b8j 0.0.2.ivu 0.0.2.ix9
    0.0.2.ixj 0.0.2.iyh 0.0.2.j29 0.0.2.bay 0.0.2.ba4 0.0.2.j2s 0.0.2.30t0 0.0.2.j47 0.0.2.j7s
    0.0.2.j7w 0.0.2.j7y 0.0.2.j7w 0.0.2.j96 0.0.2.j9q 0.0.2.jaq 0.0.2.jac 0.0.2.jan 0.0.2.jby
    0.0.2.jci 0.0.2.jcm 0.0.2.jdc 0.0.2.jdn 0.0.2.jfh 0.0.2.jht 0.0.2.jis 0.0.2.jm8 0.0.2.31n0
    0.0.2.jlp 0.0.2.jjw 0.0.2.jmw 0.0.2.jnn 0.0.2.jqc 0.0.2.31td 0.0.2.js2 0.0.2.jph 0.0.2.jop
    0.0.2.bhq 0.0.2.ju1 0.0.2.jum 0.0.2.jvh 0.0.2.juf 0.0.2.bjg 0.0.2.k0f 0.0.2.k18 0.0.2.32mi
    0.0.2.k4j 0.0.2.kc8 0.0.2.k7d 0.0.2.bo9 0.0.2.k9d 0.0.2.bns 0.0.2.bms 0.0.2.g42 0.0.2.g45
    0.0.2.kcg 0.0.2.k9o 0.0.2.pf1 0.0.2.deh 0.0.2.kd3 0.0.2.kd7 0.0.2.kdd 0.0.2.kf2 0.0.2.ker
    0.0.2.33cz 0.0.2.bpl 0.0.2.kje 0.0.2.kg5 0.0.2.klu 0.0.2.kn9 0.0.2.33hp 0.0.2.kni 0.0.2.kkf
    0.0.2.kr8 0.0.2.brx 0.0.2.ksi 0.0.2.kv7 0.0.2.kx6 0.0.2.l2g 0.0.2.33xf 0.0.2.l3v 0.0.2.bvc
    0.0.2.l5t 0.0.2.34br 0.0.2.l78 0.0.2.bwu 0.0.2.l82 0.0.2.l9b 0.1.2.la2 0.0.2.34p9 0.0.2.2yvf
    0.0.2.34sa 0.0.2.le6 0.0.2.354s 0.0.2.lhb 0.0.2.lhp 0.0.2.lev 0.0.2.ljq 0.0.2.lku 0.0.2.lmf
    0.0.2.lkx 0.0.2.lm1 0.0.2.lmg 0.0.2.lmt 0.0.2.357i 0.0.2.lkk 0.0.2.lrj 0.0.2.lta 0.0.2.c37
    0.0.2.lvv 0.0.2.lvr 0.0.2.35jl 0.0.2.lq1 0.0.2.m0e 0.0.2.35ni 0.0.2.35ou 0.0.2.m2u 0.0.2.m61
    0.0.2.m5a 0.0.2.m57 0.0.2.c5y 0.0.2.m6i 0.0.2.m7x 0.0.2.m7r 0.0.2.m99 0.0.2.2u5h 0.0.2.mdh
    0.0.2.368z 0.0.2.mfw 0.0.2.36i3 0.0.2.mjs 0.0.2.mk5 0.0.2.mkw 0.0.2.36yw 0.0.2.mm8 0.0.2.mmt
    0.0.2.3779 0.0.2.37dg 0.0.2.mt6 0.0.2.mtn 0.0.2.cdo 0.0.2.mud 0.1.1.ce0 0.0.2.myv 0.0.2.mzg
    0.0.2.n01 0.0.2.n0l 0.0.2.n2i 0.0.2.cgr 0.0.2.n50 0.0.2.386u 0.0.2.n5q 0.0.2.389e 0.0.2.n74
    0.0.2.2zrz 0.0.2.nbk 0.0.2.38v5 0.0.2.38vs 0.0.2.38zo 0.0.2.cn0 0.0.2.cnc 0.0.2.nhw 0.0.2.394j
    0.0.2.394i 0.0.2.395l 0.0.2.396b 0.1.2.nj2 0.0.2.nj3 0.0.2.nka 0.0.2.cop 0.0.2.nm3 0.0.2.cp2
    0.0.2.cra 0.0.2.39r1 0.0.2.nri 0.0.2.nt8 0.0.2.nv0 0.0.2.ctf 0.0.2.3a5i 0.0.2.nyu 0.0.2.3a8q
    0.0.2.3a9x 0.0.2.o0f 0.0.2.o2z 0.0.2.cvj 0.0.2.o5c 0.0.2.o5m 0.0.2.o5r 0.0.2.3at8 0.1.1.3b1j
    0.0.2.oa6 0.0.2.d1e 0.0.2.3b8r 0.0.2.og6 0.0.2.og9 0.0.2.d2f 0.0.2.3beo 0.0.2.onm 0.0.2.d5s
    0.0.2.oo8 0.0.2.oo3 0.0.2.oow 0.0.2.3c06 0.0.2.orn 0.0.2.d8h 0.0.2.ouf 0.0.2.ow2 0.0.2.oxx
    0.0.2.d9w 0.0.2.3ciw 0.0.2.3cjr 0.0.2.dax 0.0.2.3cnt 0.0.2.p6i 0.0.2.3cqm 0.0.2.p79 0.0.2.pa2
    0.0.2.pad 0.0.2.3d22 0.0.2.3d43 0.0.2.pcw 0.0.2.3d7s 0.0.2.pdc 0.0.2.33a7 0.0.2.ded 0.0.2.pf6
    0.0.2.phf 0.0.2.dfv 0.0.2.pj2 0.0.2.hx1 0.0.2.3dlz 0.0.2.3dmd 0.0.2.33bn 0.0.2.33bw 0.0.2.poh
    0.0.2.pok 0.0.2.sda 0.0.2.dij 0.0.2.psh 0.0.2.psb 0.0.2.pst 0.0.2.gc3 0.0.2.ptd 0.0.2.ptf
    0.0.2.ptp 0.0.2.puu 0.0.2.3ebg 0.0.2.put 0.0.2.pwd 0.0.2.pyb 0.0.2.q0d 0.0.2.pwj 0.0.2.q0t
    0.0.2.q1z 0.0.2.q53 0.0.2.pxv 0.0.2.q16 0.0.2.q18 0.0.2.q1o 0.0.2.3eie 0.0.2.3eqz 0.0.2.3emt
    0.0.2.dnv 0.0.2.q9d 0.0.2.q9f 0.0.2.qae 0.0.2.3g0a 0.0.2.qck 0.0.2.3f3g 0.0.2.dp9 0.0.2.dpd
    0.0.2.3f75 0.0.2.3ff6 0.0.2.dpn 0.0.2.qj4 0.0.2.qjg 0.0.2.qjr 0.0.2.qjt 0.0.2.qll 0.0.2.qko
    0.0.2.qoe 0.0.2.qn6 0.0.2.qrd 0.0.2.qp4 0.0.2.qqz 0.0.2.qrq 0.0.2.dsn 0.0.2.qu9 0.0.2.qv5
    0.0.2.dtl 0.0.2.qxs 0.0.2.qxv 0.0.2.3giv 0.0.2.r13 0.0.2.r1a 0.0.2.dv9 0.0.2.r22 0.0.2.aez
    0.0.2.3gz2 0.0.2.3h46 0.0.2.dz2 0.0.2.dzb 0.0.2.rds 0.0.2.rfx 0.0.2.rka 0.0.2.rpx 0.0.2.3hrc
    0.0.2.rsb 0.0.2.rsx 0.0.2.rvf 0.0.2.rxz 0.0.2.3i9b 0.0.2.2upw 0.0.2.s0b 0.0.2.rzw 0.0.2.s1c
    0.0.2.2uvy 0.0.2.s7o 0.0.2.sag 0.0.2.3jki 0.0.2.3jl9 0.0.2.sk4 0.0.2.smp 0.0.2.snl 0.0.2.3ju6
    0.0.2.snv 0.0.2.svs 0.1.2.t07 0.0.2.sxo 0.0.2.t89 0.0.2.t91 0.0.2.3ksa 0.0.2.tjf 0.0.2.ej9
    0.0.2.tkn 0.0.2.3l2v 0.0.2.eli 0.0.2.ts3 0.0.2.iia 0.0.2.tur 0.0.2.3ltx 0.0.2.3lzu 0.0.2.epa
    0.0.2.epi 0.0.2.u00 0.0.2.3mdm 0.0.2.er6 0.0.2.3mhi 0.1.1.u17 0.0.2.u21 0.0.2.3mpi 0.0.2.u76
    0.0.2.eur 0.0.2.u95 0.0.2.ucn 0.0.2.ude 0.0.2.uf2 0.0.2.ez2 0.0.2.3nsg 0.0.2.umq 0.0.2.uv4
    0.0.2.v0d 0.0.2.f66 0.0.2.f71 0.0.2.v3b 0.0.2.3owe 0.0.2.f7c 0.0.2.3oxx 0.0.2.3p5a 0.0.2.3p8x
    0.0.2.vcr 0.0.2.f9y 0.0.2.veh 0.0.2.vem 0.0.2.vet 0.0.2.vf3 0.0.2.vfa 0.0.2.vgb 0.0.2.3pxc
    15u.3t6.0 5.6jt.0 f62u.6n.1"

/-- What a character is taken for. -/
def mapping? (c : Char) : Option (List Char) :=
  match mappings.find? c with
  | none => none
  | some range =>
      let offset := c.toNat - range.first
      match range.values with
      | 1 :: targets => some (targets.map Char.ofNat)
      | [2, target] => some [Char.ofNat (target + offset)]
      | [3, target] => if offset % 2 = 0 then some [Char.ofNat (target + offset)] else some [c]
      | _ => some [c]

end Intercom.Url.Domain
