/-
General categories: the kind of each code point, as the Unicode standard gives it in two letters, the first of which
names a group of kinds.
-/
import GlslInspect.Regex.Unicode.CodeSet

namespace GlslInspect.Category

/-- the category of every code point -/
def table : String :=
  "Cc*32 Zs Po*3 Sc Po*3 Ps Pe Po Sm Po Pd Po*2 Nd*10 Po*2 Sm*3 Po*2 Lu*26 Ps Po Pe Sk Pc Sk Ll*26 Ps Sm Pe Sm
    Cc*33 Zs Po Sc*4 So Po Sk So Lo Pi Sm Cf So Sk So Sm No*2 Sk Ll Po*2 Sk No Lo Pf No*3 Po Lu*23 Sm Lu*7 Ll*24
    Sm Ll*8 Lu Ll Lu Ll Lu Ll Lu Ll Lu Ll Lu Ll Lu Ll Lu Ll Lu Ll Lu Ll Lu Ll Lu Ll Lu Ll Lu Ll Lu Ll Lu Ll Lu Ll
    Lu Ll Lu Ll Lu Ll Lu Ll Lu Ll Lu Ll Lu Ll Lu Ll Lu Ll Lu Ll Lu Ll*2 Lu Ll Lu Ll Lu Ll Lu Ll Lu Ll Lu Ll Lu Ll
    Lu Ll*2 Lu Ll Lu Ll Lu Ll Lu Ll Lu Ll Lu Ll Lu Ll Lu Ll Lu Ll Lu Ll Lu Ll Lu Ll Lu Ll Lu Ll Lu Ll Lu Ll Lu Ll
    Lu Ll Lu Ll Lu Ll Lu Ll Lu Ll Lu Ll Lu*2 Ll Lu Ll Lu Ll*3 Lu*2 Ll Lu Ll Lu*2 Ll Lu*3 Ll*2 Lu*4 Ll Lu*2 Ll Lu*3
    Ll*3 Lu*2 Ll Lu*2 Ll Lu Ll Lu Ll Lu*2 Ll Lu Ll*2 Lu Ll Lu*2 Ll Lu*3 Ll Lu Ll Lu*2 Ll*2 Lo Lu Ll*3 Lo*4 Lu Lt
    Ll Lu Lt Ll Lu Lt Ll Lu Ll Lu Ll Lu Ll Lu Ll Lu Ll Lu Ll Lu Ll Lu Ll*2 Lu Ll Lu Ll Lu Ll Lu Ll Lu Ll Lu Ll Lu
    Ll Lu Ll Lu Ll*2 Lu Lt Ll Lu Ll Lu*3 Ll Lu Ll Lu Ll Lu Ll Lu Ll Lu Ll Lu Ll Lu Ll Lu Ll Lu Ll Lu Ll Lu Ll Lu
    Ll Lu Ll Lu Ll Lu Ll Lu Ll Lu Ll Lu Ll Lu Ll Lu Ll Lu Ll Lu Ll Lu Ll Lu Ll Lu Ll Lu Ll Lu Ll Lu Ll Lu Ll*7
    Lu*2 Ll Lu*2 Ll*2 Lu Ll Lu*4 Ll Lu Ll Lu Ll Lu Ll Lu Ll*69 Lo Ll*27 Lm*18 Sk*4 Lm*12 Sk*14 Lm*5 Sk*7 Lm Sk Lm
    Sk*17 Mn*112 Lu Ll Lu Ll Lm Sk Lu Ll Cn*2 Lm Ll*3 Po Lu Cn*4 Sk*2 Lu Po Lu*3 Cn Lu Cn Lu*2 Ll Lu*17 Cn Lu*9
    Ll*35 Lu Ll*2 Lu*3 Ll*3 Lu Ll Lu Ll Lu Ll Lu Ll Lu Ll Lu Ll Lu Ll Lu Ll Lu Ll Lu Ll Lu Ll Lu Ll*5 Lu Ll Sm Lu
    Ll Lu*2 Ll*2 Lu*51 Ll*48 Lu Ll Lu Ll Lu Ll Lu Ll Lu Ll Lu Ll Lu Ll Lu Ll Lu Ll Lu Ll Lu Ll Lu Ll Lu Ll Lu Ll
    Lu Ll Lu Ll Lu Ll So Mn*5 Me*2 Lu Ll Lu Ll Lu Ll Lu Ll Lu Ll Lu Ll Lu Ll Lu Ll Lu Ll Lu Ll Lu Ll Lu Ll Lu Ll
    Lu Ll Lu Ll Lu Ll Lu Ll Lu Ll Lu Ll Lu Ll Lu Ll Lu Ll Lu Ll Lu Ll Lu Ll Lu Ll Lu Ll Lu*2 Ll Lu Ll Lu Ll Lu Ll
    Lu Ll Lu Ll Lu Ll*2 Lu Ll Lu Ll Lu Ll Lu Ll Lu Ll Lu Ll Lu Ll Lu Ll Lu Ll Lu Ll Lu Ll Lu Ll Lu Ll Lu Ll Lu Ll
    Lu Ll Lu Ll Lu Ll Lu Ll Lu Ll Lu Ll Lu Ll Lu Ll Lu Ll Lu Ll Lu Ll Lu Ll Lu Ll Lu Ll Lu Ll Lu Ll Lu Ll Lu Ll Lu
    Ll Lu Ll Lu Ll Lu Ll Lu Ll Lu Ll Lu Ll Lu Ll Lu Ll Lu Ll Lu Ll Lu Ll Lu Ll Lu Ll Lu Ll Cn Lu*38 Cn*2 Lm Po*6
    Ll*41 Po Pd Cn*2 So*2 Sc Cn Mn*45 Pd Mn Po Mn*2 Po Mn*2 Po Mn Cn*8 Lo*27 Cn*4 Lo*4 Po*2 Cn*11 Cf*6 Sm*3 Po*2
    Sc Po*2 So*2 Mn*11 Po Cf Po*3 Lo*32 Lm Lo*10 Mn*21 Nd*10 Po*4 Lo*2 Mn Lo*99 Po Lo Mn*7 Cf So Mn*6 Lm*2 Mn*2 So
    Mn*4 Lo*2 Nd*10 Lo*3 So*2 Lo Po*14 Cn Cf Lo Mn Lo*30 Mn*27 Cn*2 Lo*89 Mn*11 Lo Cn*14 Nd*10 Lo*33 Mn*9 Lm*2 So
    Po*3 Lm Cn*2 Mn Sc*2 Lo*22 Mn*4 Lm Mn*9 Lm Mn*3 Lm Mn*5 Cn*2 Po*15 Cn Lo*25 Mn*3 Cn*2 Po Cn Lo*11 Cn*5 Lo*24
    Sk Lo*6 Cn Cf*2 Cn*5 Mn*9 Lo*41 Lm Mn*24 Cf Mn*32 Mc Lo*54 Mn Mc Mn Lo Mc*3 Mn*8 Mc*4 Mn Mc*2 Lo Mn*7 Lo*10
    Mn*2 Po*2 Nd*10 Po Lm Lo*15 Mn Mc*2 Cn Lo*8 Cn*2 Lo*2 Cn*2 Lo*22 Cn Lo*7 Cn Lo Cn*3 Lo*4 Cn*2 Mn Lo Mc*3 Mn*4
    Cn*2 Mc*2 Cn*2 Mc*2 Mn Lo Cn*8 Mc Cn*4 Lo*2 Cn Lo*3 Mn*2 Cn*2 Nd*10 Lo*2 Sc*2 No*6 So Sc Lo Po Mn Cn*2 Mn*2 Mc
    Cn Lo*6 Cn*4 Lo*2 Cn*2 Lo*22 Cn Lo*7 Cn Lo*2 Cn Lo*2 Cn Lo*2 Cn*2 Mn Cn Mc*3 Mn*2 Cn*4 Mn*2 Cn*2 Mn*3 Cn*3 Mn
    Cn*7 Lo*4 Cn Lo Cn*7 Nd*10 Mn*2 Lo*3 Mn Po Cn*10 Mn*2 Mc Cn Lo*9 Cn Lo*3 Cn Lo*22 Cn Lo*7 Cn Lo*2 Cn Lo*5 Cn*2
    Mn Lo Mc*3 Mn*5 Cn Mn*2 Mc Cn Mc*2 Mn Cn*2 Lo Cn*15 Lo*2 Mn*2 Cn*2 Nd*10 Po Sc Cn*7 Lo Mn*6 Cn Mn Mc*2 Cn Lo*8
    Cn*2 Lo*2 Cn*2 Lo*22 Cn Lo*7 Cn Lo*2 Cn Lo*5 Cn*2 Mn Lo Mc Mn Mc Mn*4 Cn*2 Mc*2 Cn*2 Mc*2 Mn Cn*7 Mn*2 Mc Cn*4
    Lo*2 Cn Lo*3 Mn*2 Cn*2 Nd*10 So Lo No*6 Cn*10 Mn Lo Cn Lo*6 Cn*3 Lo*3 Cn Lo*4 Cn*3 Lo*2 Cn Lo Cn Lo*2 Cn*3
    Lo*2 Cn*3 Lo*3 Cn*3 Lo*12 Cn*4 Mc*2 Mn Mc*2 Cn*3 Mc*3 Cn Mc*3 Mn Cn*2 Lo Cn*6 Mc Cn*14 Nd*10 No*3 So*6 Sc So
    Cn*5 Mn Mc*3 Mn Lo*8 Cn Lo*3 Cn Lo*23 Cn Lo*16 Cn*2 Mn Lo Mn*3 Mc*4 Cn Mn*3 Cn Mn*4 Cn*7 Mn*2 Cn Lo*3 Cn*2 Lo
    Cn*2 Lo*2 Mn*2 Cn*2 Nd*10 Cn*7 Po No*7 So Lo Mn Mc*2 Po Lo*8 Cn Lo*3 Cn Lo*23 Cn Lo*10 Cn Lo*5 Cn*2 Mn Lo Mc
    Mn Mc*5 Cn Mn Mc*2 Cn Mc*2 Mn*2 Cn*7 Mc*2 Cn*6 Lo*2 Cn Lo*2 Mn*2 Cn*2 Nd*10 Cn Lo*2 Mc Cn*12 Mn*2 Mc*2 Lo*9 Cn
    Lo*3 Cn Lo*41 Mn*2 Lo Mc*3 Mn*4 Cn Mc*3 Cn Mc*3 Mn Lo So Cn*4 Lo*3 Mc No*7 Lo*3 Mn*2 Cn*2 Nd*10 No*9 So Lo*6
    Cn Mn Mc*2 Cn Lo*18 Cn*3 Lo*24 Cn Lo*9 Cn Lo Cn*2 Lo*7 Cn*3 Mn Cn*4 Mc*3 Mn*3 Cn Mn Cn Mc*8 Cn*6 Nd*10 Cn*2
    Mc*2 Po Cn*12 Lo*48 Mn Lo*2 Mn*7 Cn*4 Sc Lo*6 Lm Mn*8 Po Nd*10 Po*2 Cn*37 Lo*2 Cn Lo Cn Lo*5 Cn Lo*24 Cn Lo Cn
    Lo*10 Mn Lo*2 Mn*9 Lo Cn*2 Lo*5 Cn Lm Cn Mn*7 Cn Nd*10 Cn*2 Lo*4 Cn*32 Lo So*3 Po*15 So Po So*3 Mn*2 So*6
    Nd*10 No*10 So Mn So Mn So Mn Ps Pe Ps Pe Mc*2 Lo*8 Cn Lo*36 Cn*4 Mn*14 Mc Mn*5 Po Mn*2 Lo*5 Mn*11 Cn Mn*36 Cn
    So*8 Mn So*6 Cn So*2 Po*5 So*4 Po*2 Cn*37 Lo*43 Mc*2 Mn*4 Mc Mn*6 Mc Mn*2 Mc*2 Mn*2 Lo Nd*10 Po*6 Lo*6 Mc*2
    Mn*2 Lo*4 Mn*3 Lo Mc*3 Lo*2 Mc*7 Lo*3 Mn*4 Lo*13 Mn Mc*2 Mn*2 Mc*6 Mn Lo Mc Nd*10 Mc*3 Mn So*2 Lu*38 Cn Lu
    Cn*5 Lu Cn*2 Ll*43 Po Lm Ll*3 Lo*329 Cn Lo*4 Cn*2 Lo*7 Cn Lo Cn Lo*4 Cn*2 Lo*41 Cn Lo*4 Cn*2 Lo*33 Cn Lo*4
    Cn*2 Lo*7 Cn Lo Cn Lo*4 Cn*2 Lo*15 Cn Lo*57 Cn Lo*4 Cn*2 Lo*67 Cn*2 Mn*3 Po*9 No*20 Cn*3 Lo*16 So*10 Cn*6
    Lu*86 Cn*2 Ll*6 Cn*2 Pd Lo*620 So Po Lo*17 Zs Lo*26 Ps Pe Cn*3 Lo*75 Po*3 Nl*3 Lo*8 Cn*7 Lo*18 Mn*3 Mc Cn*9
    Lo*19 Mn*2 Mc Po*2 Cn*9 Lo*18 Mn*2 Cn*12 Lo*13 Cn Lo*3 Cn Mn*2 Cn*12 Lo*52 Mn*2 Mc Mn*7 Mc*8 Mn Mc*2 Mn*11
    Po*3 Lm Po*3 Sc Lo Mn Cn*2 Nd*10 Cn*6 No*10 Cn*6 Po*6 Pd Po*4 Mn*3 Cf Mn Nd*10 Cn*6 Lo*35 Lm Lo*53 Cn*7 Lo*5
    Mn*2 Lo*34 Mn Lo Cn*5 Lo*70 Cn*10 Lo*31 Cn Mn*3 Mc*4 Mn*2 Mc*3 Cn*4 Mc*2 Mn Mc*6 Mn*3 Cn*4 So Cn*3 Po*2 Nd*10
    Lo*30 Cn*2 Lo*5 Cn*11 Lo*44 Cn*4 Lo*26 Cn*6 Nd*10 No Cn*3 So*34 Lo*23 Mn*2 Mc*2 Mn Cn*2 Po*2 Lo*53 Mc Mn Mc
    Mn*7 Cn Mn Mc Mn Mc*2 Mn*8 Mc*6 Mn*10 Cn*2 Mn Nd*10 Cn*6 Nd*10 Cn*6 Po*7 Lm Po*6 Cn*2 Mn*14 Me Mn*16 Cn*49
    Mn*4 Mc Lo*47 Mn Mc Mn*5 Mc Mn Mc*5 Mn Mc*2 Lo*8 Cn Po*2 Nd*10 Po*7 So*10 Mn*9 So*9 Po*3 Mn*2 Mc Lo*30 Mc Mn*4
    Mc*2 Mn*2 Mc Mn*3 Lo*2 Nd*10 Lo*44 Mn Mc Mn*2 Mc*3 Mn Mc Mn*3 Mc*2 Cn*8 Po*4 Lo*36 Mc*8 Mn*8 Mc*2 Mn*2 Cn*3
    Po*5 Nd*10 Cn*3 Lo*3 Nd*10 Lo*30 Lm*6 Po*2 Ll*9 Lu Ll Cn*5 Lu*43 Cn*2 Lu*3 Po*8 Cn*8 Mn*3 Po Mn*13 Mc Mn*7
    Lo*4 Mn Lo*6 Mn Lo*2 Mc Mn*2 Lo Cn*5 Ll*44 Lm*63 Ll*13 Lm Ll*34 Lm*37 Mn*64 Lu Ll Lu Ll Lu Ll Lu Ll Lu Ll Lu
    Ll Lu Ll Lu Ll Lu Ll Lu Ll Lu Ll Lu Ll Lu Ll Lu Ll Lu Ll Lu Ll Lu Ll Lu Ll Lu Ll Lu Ll Lu Ll Lu Ll Lu Ll Lu Ll
    Lu Ll Lu Ll Lu Ll Lu Ll Lu Ll Lu Ll Lu Ll Lu Ll Lu Ll Lu Ll Lu Ll Lu Ll Lu Ll Lu Ll Lu Ll Lu Ll Lu Ll Lu Ll Lu
    Ll Lu Ll Lu Ll Lu Ll Lu Ll Lu Ll Lu Ll Lu Ll Lu Ll Lu Ll Lu Ll Lu Ll Lu Ll Lu Ll Lu Ll Lu Ll Lu Ll Lu Ll Lu Ll
    Lu Ll Lu Ll Lu Ll Lu Ll Lu Ll Lu Ll Lu Ll Lu Ll Lu Ll Lu Ll Lu Ll Lu Ll Lu Ll Lu Ll*9 Lu Ll Lu Ll Lu Ll Lu Ll
    Lu Ll Lu Ll Lu Ll Lu Ll Lu Ll Lu Ll Lu Ll Lu Ll Lu Ll Lu Ll Lu Ll Lu Ll Lu Ll Lu Ll Lu Ll Lu Ll Lu Ll Lu Ll Lu
    Ll Lu Ll Lu Ll Lu Ll Lu Ll Lu Ll Lu Ll Lu Ll Lu Ll Lu Ll Lu Ll Lu Ll Lu Ll Lu Ll Lu Ll Lu Ll Lu Ll Lu Ll Lu Ll
    Lu Ll Lu Ll Lu Ll Lu Ll Lu Ll Lu Ll Lu Ll Lu Ll*9 Lu*8 Ll*6 Cn*2 Lu*6 Cn*2 Ll*8 Lu*8 Ll*8 Lu*8 Ll*6 Cn*2 Lu*6
    Cn*2 Ll*8 Cn Lu Cn Lu Cn Lu Cn Lu Ll*8 Lu*8 Ll*14 Cn*2 Ll*8 Lt*8 Ll*8 Lt*8 Ll*8 Lt*8 Ll*5 Cn Ll*2 Lu*4 Lt Sk
    Ll Sk*3 Ll*3 Cn Ll*2 Lu*4 Lt Sk*3 Ll*4 Cn*2 Ll*2 Lu*4 Cn Sk*3 Ll*8 Lu*5 Sk*3 Cn*2 Ll*3 Cn Ll*2 Lu*4 Lt Sk*2 Cn
    Zs*11 Cf*5 Pd*6 Po*2 Pi Pf Ps Pi*2 Pf Ps Pi Po*8 Zl Zp Cf*5 Zs Po*9 Pi Pf Po*4 Pc*2 Po*3 Sm Ps Pe Po*11 Sm Po
    Pc Po*10 Zs Cf*5 Cn Cf*10 No Lm Cn*2 No*6 Sm*3 Ps Pe Lm No*10 Sm*3 Ps Pe Cn Lm*13 Cn*3 Sc*33 Cn*15 Mn*13 Me*4
    Mn Me*3 Mn*12 Cn*15 So*2 Lu So*4 Lu So*2 Ll Lu*3 Ll*2 Lu*3 Ll So Lu So*2 Sm Lu*5 So*6 Lu So Lu So Lu So Lu*4
    So Ll Lu*4 Ll Lo*4 Ll So*2 Ll*2 Lu*2 Sm*5 Lu Ll*4 So Sm So*2 Ll So No*16 Nl*35 Lu Ll Nl*4 No So*2 Cn*4 Sm*5
    So*5 Sm*2 So*4 Sm So*2 Sm So*2 Sm So*7 Sm So*31 Sm*2 So*2 Sm So Sm So*31 Sm*268 So*8 Ps Pe Ps Pe So*20 Sm*2
    So*7 Ps Pe So*81 Sm So*30 Sm*25 So*40 Sm*6 So*72 Cn*22 So*11 Cn*21 No*60 So*78 No*22 So*183 Sm So*9 Sm So*54
    Sm*8 So*111 Sm So*248 Ps Pe Ps Pe Ps Pe Ps Pe Ps Pe Ps Pe Ps Pe No*30 So*44 Sm*5 Ps Pe Sm*31 Ps Pe Ps Pe Ps Pe
    Ps Pe Ps Pe Sm*16 So*256 Sm*131 Ps Pe Ps Pe Ps Pe Ps Pe Ps Pe Ps Pe Ps Pe Ps Pe Ps Pe Ps Pe Ps Pe Sm*63 Ps Pe
    Ps Pe Sm*32 Ps Pe Sm*258 So*48 Sm*21 So*2 Sm*6 So*39 Cn*2 So*32 Cn So*105 Lu*48 Ll*48 Lu Ll Lu*3 Ll*2 Lu Ll Lu
    Ll Lu Ll Lu*4 Ll Lu Ll*2 Lu Ll*6 Lm*2 Lu*3 Ll Lu Ll Lu Ll Lu Ll Lu Ll Lu Ll Lu Ll Lu Ll Lu Ll Lu Ll Lu Ll Lu
    Ll Lu Ll Lu Ll Lu Ll Lu Ll Lu Ll Lu Ll Lu Ll Lu Ll Lu Ll Lu Ll Lu Ll Lu Ll Lu Ll Lu Ll Lu Ll Lu Ll Lu Ll Lu Ll
    Lu Ll Lu Ll Lu Ll Lu Ll Lu Ll Lu Ll Lu Ll Lu Ll Lu Ll Lu Ll Lu Ll Lu Ll Lu Ll Lu Ll Lu Ll Lu Ll Lu Ll Lu Ll Lu
    Ll Lu Ll*2 So*6 Lu Ll Lu Ll Mn*3 Lu Ll Cn*5 Po*4 No Po*2 Ll*38 Cn Ll Cn*5 Ll Cn*2 Lo*56 Cn*7 Lm Po Cn*14 Mn
    Lo*23 Cn*9 Lo*7 Cn Lo*7 Cn Lo*7 Cn Lo*7 Cn Lo*7 Cn Lo*7 Cn Lo*7 Cn Lo*7 Cn Mn*32 Po*2 Pi Pf Pi Pf Po*3 Pi Pf
    Po Pi Pf Po*9 Pd Po*2 Pd Po Pi Pf Po*2 Pi Pf Ps Pe Ps Pe Ps Pe Ps Pe Po*5 Lm Po*10 Pd*2 Po*4 Pd Po Ps Po*13
    So*2 Po*3 Ps Pe Ps Pe Ps Pe Ps Pe Pd Cn*34 So*26 Cn So*89 Cn*12 So*214 Cn*26 So*16 Zs Po*3 So Lm Lo Nl Ps Pe
    Ps Pe Ps Pe Ps Pe Ps Pe So*2 Ps Pe Ps Pe Ps Pe Ps Pe Pd Ps Pe*2 So Nl*9 Mn*4 Mc*2 Pd Lm*5 So*2 Nl*3 Lm Lo Po
    So*2 Cn Lo*86 Cn*2 Mn*2 Sk*2 Lm*2 Lo Pd Lo*90 Po Lm*3 Lo Cn*5 Lo*43 Cn Lo*94 Cn So*2 No*4 So*10 Lo*32 So*38
    Cn*9 So Lo*16 So*31 Cn No*10 So*30 No*8 So No*15 So*32 No*10 So*39 No*15 So*320 Lo*6592 So*64 Lo*21013 Lm
    Lo*1143 Cn*3 So*55 Cn*9 Lo*40 Lm*6 Po*2 Lo*268 Lm Po*3 Lo*16 Nd*10 Lo*2 Cn*20 Lu Ll Lu Ll Lu Ll Lu Ll Lu Ll Lu
    Ll Lu Ll Lu Ll Lu Ll Lu Ll Lu Ll Lu Ll Lu Ll Lu Ll Lu Ll Lu Ll Lu Ll Lu Ll Lu Ll Lu Ll Lu Ll Lu Ll Lu Ll Lo Mn
    Me*3 Po Mn*10 Po Lm Lu Ll Lu Ll Lu Ll Lu Ll Lu Ll Lu Ll Lu Ll Lu Ll Lu Ll Lu Ll Lu Ll Lu Ll Lu Ll Lu Ll Lm*2
    Mn*2 Lo*70 Nl*10 Mn*2 Po*6 Cn*8 Sk*23 Lm*9 Sk*2 Lu Ll Lu Ll Lu Ll Lu Ll Lu Ll Lu Ll Lu Ll*3 Lu Ll Lu Ll Lu Ll
    Lu Ll Lu Ll Lu Ll Lu Ll Lu Ll Lu Ll Lu Ll Lu Ll Lu Ll Lu Ll Lu Ll Lu Ll Lu Ll Lu Ll Lu Ll Lu Ll Lu Ll Lu Ll Lu
    Ll Lu Ll Lu Ll Lu Ll Lu Ll Lu Ll Lu Ll Lu Ll Lu Ll Lu Ll Lm Ll*8 Lu Ll Lu Ll Lu*2 Ll Lu Ll Lu Ll Lu Ll Lu Ll
    Lm Sk*2 Lu Ll Lu Ll Lo Lu Ll Lu Ll*3 Lu Ll Lu Ll Lu Ll Lu Ll Lu Ll Lu Ll Lu Ll Lu Ll Lu Ll Lu Ll Lu*5 Ll Lu*5
    Ll Lu Ll Lu Ll Lu Ll Lu Ll Lu Ll Lu Ll Lu Ll Lu*4 Ll Lu Ll Lu*2 Ll Cn*2 Lu Ll Cn Ll Cn Ll Lu Ll Lu Ll Lu Ll Lu
    Cn*21 Lm*3 Lu Ll Lo Lm*2 Ll Lo*7 Mn Lo*3 Mn Lo*4 Mn Lo*23 Mc*2 Mn*2 Mc So*4 Mn Cn*3 No*6 So*2 Sc So Cn*6 Lo*52
    Po*4 Cn*8 Mc*2 Lo*50 Mc*16 Mn*2 Cn*8 Po*2 Nd*10 Cn*6 Mn*18 Lo*6 Po*3 Lo Po Lo*2 Mn Nd*10 Lo*28 Mn*8 Po*2 Lo*23
    Mn*11 Mc*2 Cn*11 Po Lo*29 Cn*3 Mn*3 Mc Lo*47 Mn Mc*2 Mn*4 Mc*2 Mn*2 Mc*3 Po*13 Cn Lm Nd*10 Cn*4 Po*2 Lo*5 Mn
    Lm Lo*9 Nd*10 Lo*5 Cn Lo*41 Mn*6 Mc*2 Mn*2 Mc*2 Mn*2 Cn*9 Lo*3 Mn Lo*8 Mn Mc Cn*2 Nd*10 Cn*2 Po*4 Lo*16 Lm
    Lo*6 So*3 Lo Mc Mn Mc Lo*50 Mn Lo Mn*3 Lo*2 Mn*2 Lo*5 Mn*2 Lo Mn Lo Cn*24 Lo*2 Lm Po*2 Lo*11 Mc Mn*2 Mc*2 Po*2
    Lo Lm*2 Mc Mn Cn*10 Lo*6 Cn*2 Lo*6 Cn*2 Lo*6 Cn*9 Lo*7 Cn Lo*7 Cn Ll*43 Sk Lm*4 Ll*9 Lm Sk*2 Cn*4 Ll*80 Lo*35
    Mc*2 Mn Mc*2 Mn Mc*2 Po Mc Mn Cn*2 Nd*10 Cn*6 Lo*11172 Cn*12 Lo*23 Cn*4 Lo*49 Cn*4 Cs*2048 Co*6400 Lo*366 Cn*2
    Lo*106 Cn*38 Ll*7 Cn*12 Ll*5 Cn*5 Lo Mn Lo*10 Sm Lo*13 Cn Lo*5 Cn Lo Cn Lo*2 Cn Lo*2 Cn Lo*108 Sk*17 Cn*16
    Lo*363 Pe Ps So*16 Lo*64 Cn*2 Lo*54 Cn*7 So Cn*32 Lo*12 Sc So*3 Mn*16 Po*7 Ps Pe Po Cn*6 Mn*16 Po Pd*2 Pc*2 Ps
    Pe Ps Pe Ps Pe Ps Pe Ps Pe Ps Pe Ps Pe Ps Pe Po*2 Ps Pe Po*4 Pc*3 Po*3 Cn Po*4 Pd Ps Pe Ps Pe Ps Pe Po*3 Sm Pd
    Sm*3 Cn Po Sc Po*2 Cn*4 Lo*5 Cn Lo*135 Cn*2 Cf Cn Po*3 Sc Po*3 Ps Pe Po Sm Po Pd Po*2 Nd*10 Po*2 Sm*3 Po*2
    Lu*26 Ps Po Pe Sk Pc Sk Ll*26 Ps Sm Pe Sm Ps Pe Po Ps Pe Po*2 Lo*10 Lm Lo*45 Lm*2 Lo*31 Cn*3 Lo*6 Cn*2 Lo*6
    Cn*2 Lo*6 Cn*2 Lo*3 Cn*3 Sc*2 Sm Sk So Sc*2 Cn So Sm*4 So*2 Cn*10 Cf*3 So*2 Cn*2 Lo*12 Cn Lo*26 Cn Lo*19 Cn
    Lo*2 Cn Lo*15 Cn*2 Lo*14 Cn*34 Lo*123 Cn*5 Po*3 Cn*4 No*45 Cn*3 So*9 Nl*53 No*4 So*17 No*2 So*3 Cn So*13 Cn*3
    So Cn*47 So*45 Mn Cn*130 Lo*29 Cn*3 Lo*49 Cn*15 Mn No*27 Cn*4 Lo*32 No*4 Cn*9 Lo*20 Nl Lo*8 Nl Cn*5 Lo*38 Mn*5
    Cn*5 Lo*30 Cn Po Lo*36 Cn*4 Lo*8 Po Nl*5 Cn*42 Lu*40 Ll*40 Lo*78 Cn*2 Nd*10 Cn*6 Lu*36 Cn*4 Ll*36 Cn*4 Lo*40
    Cn*8 Lo*52 Cn*11 Po Lu*11 Cn Lu*15 Cn Lu*7 Cn Lu*2 Cn Ll*11 Cn Ll*15 Cn Ll*7 Cn Ll*2 Cn*3 Lo*52 Cn*12 Lo*311
    Cn*9 Lo*22 Cn*10 Lo*8 Cn*24 Lm*6 Cn Lm*42 Cn Lm*9 Cn*69 Lo*6 Cn*2 Lo Cn Lo*44 Cn Lo*2 Cn*3 Lo Cn*2 Lo*23 Cn Po
    No*8 Lo*23 So*2 No*7 Lo*31 Cn*8 No*9 Cn*48 Lo*19 Cn Lo*2 Cn*5 No*5 Lo*22 No*6 Cn*3 Po Lo*26 Cn*5 Po Cn*64
    Lo*56 Cn*4 No*2 Lo*2 No*16 Cn*2 No*46 Lo Mn*3 Cn Mn*2 Cn*5 Mn*4 Lo*4 Cn Lo*3 Cn Lo*29 Cn*2 Mn*3 Cn*4 Mn No*9
    Cn*7 Po*9 Cn*7 Lo*29 No*2 Po Lo*29 No*3 Cn*32 Lo*8 So Lo*28 Mn*2 Cn*4 No*5 Po*7 Cn*9 Lo*54 Cn*3 Po*7 Lo*22
    Cn*2 No*8 Lo*19 Cn*5 No*8 Lo*18 Cn*7 Po*4 Cn*12 No*7 Cn*80 Lo*73 Cn*55 Lu*51 Cn*13 Ll*51 Cn*7 No*6 Lo*36 Mn*4
    Cn*8 Nd*10 Cn*6 Nd*10 Lo*4 Lm Lo Lu*22 Cn*3 Mn*5 Pd Lm Ll*22 Cn*8 Sm*2 Cn*208 No*31 Cn Lo*42 Cn Mn*2 Pd Cn*2
    Lo*2 Cn*16 Lo*3 Cn*55 Mn*4 Lo*29 No*10 Lo Cn*8 Lo*22 Mn*11 No*4 Po*5 Cn*22 Lo*18 Mn*4 Po*4 Cn*38 Lo*21 No*7
    Cn*20 Lo*23 Cn*9 Mc Mn Mc Lo*53 Mn*15 Po*7 Cn*4 No*20 Nd*10 Mn Lo*2 Mn*2 Lo Cn*9 Mn*3 Mc Lo*45 Mc*3 Mn*4 Mc*2
    Mn*2 Po*2 Cf Po*4 Mn Cn*10 Cf Cn*2 Lo*25 Cn*7 Nd*10 Cn*6 Mn*3 Lo*36 Mn*5 Mc Mn*8 Cn Nd*10 Po*4 Lo Mc*2 Lo Cn*8
    Lo*35 Mn Po*2 Lo Cn*9 Mn*2 Mc Lo*48 Mc*3 Mn*9 Mc*2 Lo*4 Po*4 Mn*4 Po Mc Mn Nd*10 Lo Po Lo Po*3 Cn No*20 Cn*11
    Lo*18 Cn Lo*25 Mc*3 Mn*3 Mc*2 Mn Mc Mn*2 Po*6 Mn Lo*2 Mn Cn*62 Lo*7 Cn Lo Cn Lo*4 Cn Lo*15 Cn Lo*10 Po Cn*6
    Lo*47 Mn Mc*3 Mn*8 Cn*5 Nd*10 Cn*6 Mn*2 Mc*2 Cn Lo*8 Cn*2 Lo*2 Cn*2 Lo*22 Cn Lo*7 Cn Lo*2 Cn Lo*5 Cn Mn*2 Lo
    Mc*2 Mn Mc*4 Cn*2 Mc*2 Cn*2 Mc*3 Cn*2 Lo Cn*6 Mc Cn*5 Lo*5 Mc*2 Cn*2 Mn*7 Cn*3 Mn*5 Cn*11 Lo*10 Cn Lo Cn*2 Lo
    Cn Lo*38 Cn Lo Mc*3 Mn*6 Cn Mc Cn*2 Mc Cn Mc*4 Cn Mc*2 Mn Mc Mn Lo Mn Lo Po*2 Cn Po*2 Cn*8 Mn*2 Cn*29 Lo*53
    Mc*3 Mn*8 Mc*2 Mn*3 Mc Mn Lo*4 Po*5 Nd*10 Po*2 Cn Po Mn Lo*3 Cn*30 Lo*48 Mc*3 Mn*6 Mc Mn Mc*4 Mn*2 Mc Mn*2
    Lo*2 Po Lo Cn*8 Nd*10 Cn*166 Lo*47 Mc*3 Mn*4 Cn*2 Mc*4 Mn*2 Mc Mn*2 Po*23 Lo*4 Mn*2 Cn*34 Lo*48 Mc*3 Mn*8 Mc*2
    Mn Mc Mn*2 Po*3 Lo Cn*11 Nd*10 Cn*6 Po*13 Cn*19 Lo*43 Mn Mc Mn Mc*2 Mn*6 Mc Mn Lo Po Cn*6 Nd*10 Cn*6 Nd*20
    Cn*28 Lo*27 Cn*2 Mn Mc Mn Mc*2 Mn*4 Mc Mn*5 Cn*4 Nd*10 No*2 Po*3 So Lo*7 Cn*185 Lo*44 Mc*3 Mn*9 Mc Mn*2 Po
    Cn*100 Lu*32 Ll*32 Nd*10 No*9 Cn*12 Lo*8 Cn*2 Lo Cn*2 Lo*8 Cn Lo*2 Cn Lo*24 Mc*6 Cn Mc*2 Cn*2 Mn*2 Mc Mn Lo Mc
    Lo Mc Mn Po*3 Cn*9 Nd*10 Cn*70 Lo*8 Cn*2 Lo*39 Mc*3 Mn*4 Cn*2 Mn*2 Mc*4 Mn Lo Po Lo Mc Cn*27 Lo Mn*10 Lo*40
    Mn*6 Mc Lo Mn*4 Po*8 Mn Cn*8 Lo Mn*6 Mc*2 Mn*3 Lo*46 Mn*13 Mc Mn*2 Po*3 Lo Po*5 Cn*13 Lo*73 Cn*7 Po*10 Cn*182
    Lo*33 Po Cn*14 Nd*10 Cn*6 Lo*9 Cn Lo*37 Mc Mn*7 Cn Mn*6 Mc Mn Lo Po*5 Cn*10 Nd*10 No*19 Cn*3 Po*2 Lo*30 Cn*2
    Mn*22 Cn Mc Mn*7 Mc Mn*2 Mc Mn*2 Cn*73 Lo*7 Cn Lo*2 Cn Lo*38 Mn*6 Cn*3 Mn Cn Mn*2 Cn Mn*7 Lo Mn Cn*8 Nd*10
    Cn*6 Lo*6 Cn Lo*2 Cn Lo*32 Mc*5 Cn Mn*2 Cn Mc*2 Mn Mc Mn Lo Cn*7 Nd*10 Cn*310 Lo*19 Mn*2 Mc*2 Po*2 Cn*7 Mn*2
    Lo Mc Lo*13 Cn Lo*34 Mc*2 Mn*5 Cn*3 Mc*2 Mn Mc Mn Po*13 Nd*10 Mn Cn*85 Lo Cn*15 No*21 So*8 Sc*4 So*17 Cn*13 Po
    Lo*922 Cn*102 Nl*111 Cn Po*5 Cn*11 Lo*196 Cn*2636 Lo*97 Po*2 Cn*13 Lo*1072 Cf*16 Mn Lo*6 Mn*15 Cn*10 Lo*3995
    Cn*5 Lo*583 Cn*6841 Lo*30 Mn*12 Mc*3 Mn*3 Nd*10 Cn*1734 Lo*569 Cn*7 Lo*31 Cn Nd*10 Cn*4 Po*2 Lo*79 Cn Nd*10
    Cn*6 Lo*30 Cn*2 Mn*5 Po Cn*10 Lo*48 Mn*7 Po*5 So*4 Lm*4 Po So Cn*10 Nd*10 Cn No*7 Cn Lo*21 Cn*5 Lo*19 Cn*432
    Lm*3 Lo*40 Lm*2 Po*3 Nd*10 Cn*198 Lu*32 Ll*32 No*23 Po*4 Cn*101 Lo*75 Cn*4 Mn Lo Mc*55 Cn*7 Mn*4 Lm*13 Cn*64
    Lm*2 Po Lm Mn Cn*11 Mc*2 Cn*14 Lo*6136 Cn*8 Lo*1238 Cn*41 Lo*10 Cn*8935 Lm*4 Cn Lm*7 Cn Lm*2 Cn Lo*291 Cn*15
    Lo Cn*29 Lo*3 Cn*2 Lo Cn*14 Lo*4 Cn*8 Lo*396 Cn*2308 Lo*107 Cn*5 Lo*13 Cn*3 Lo*9 Cn*7 Lo*10 Cn*2 So Mn*2 Po
    Cf*4 Cn*3932 So*240 Nd*10 Cn*6 So*436 Cn*76 Mn*46 Cn*2 Mn*23 Cn*9 So*116 Cn*60 So*246 Cn*10 So*39 Cn*2 So*60
    Mc*2 Mn*3 So*3 Mc*6 Cf*8 Mn*8 So*2 Mn*7 So*30 Mn*4 So*61 Cn*21 So*66 Mn*3 So Cn*122 No*20 Cn*12 No*20 Cn*12
    So*87 Cn*9 No*25 Cn*135 Lu*26 Ll*26 Lu*26 Ll*7 Cn Ll*18 Lu*26 Ll*26 Lu Cn Lu*2 Cn*2 Lu Cn*2 Lu*2 Cn*2 Lu*4 Cn
    Lu*8 Ll*4 Cn Ll Cn Ll*7 Cn Ll*11 Lu*26 Ll*26 Lu*2 Cn Lu*4 Cn*2 Lu*8 Cn Lu*7 Cn Ll*26 Lu*2 Cn Lu*4 Cn Lu*5 Cn
    Lu Cn*3 Lu*7 Cn Ll*26 Lu*26 Ll*26 Lu*26 Ll*26 Lu*26 Ll*26 Lu*26 Ll*26 Lu*26 Ll*26 Lu*26 Ll*28 Cn*2 Lu*25 Sm
    Ll*25 Sm Ll*6 Lu*25 Sm Ll*25 Sm Ll*6 Lu*25 Sm Ll*25 Sm Ll*6 Lu*25 Sm Ll*25 Sm Ll*6 Lu*25 Sm Ll*25 Sm Ll*6 Lu
    Ll Cn*2 Nd*50 So*512 Mn*55 So*4 Mn*50 So*8 Mn So*14 Mn So*2 Po*5 Cn*15 Mn*5 Cn Mn*15 Cn*1104 Ll*10 Lo Ll*20
    Cn*6 Ll*6 Cn*213 Mn*7 Cn Mn*17 Cn*2 Mn*7 Cn Mn*2 Cn Mn*5 Cn*5 Lm*62 Cn*33 Mn Cn*112 Lo*45 Cn*3 Mn*7 Lm*7 Cn*2
    Nd*10 Cn*4 Lo So Cn*320 Lo*30 Mn Cn*17 Lo*44 Mn*4 Nd*10 Cn*5 Sc Cn*464 Lo*27 Lm Mn*4 Nd*10 Cn*214 Lo*30 Mn*2
    Lo Nd*10 Cn*4 Po Cn*480 Lo*7 Cn Lo*4 Cn Lo*2 Cn Lo*15 Cn Lo*197 Cn*2 No*9 Mn*7 Cn*41 Lu*34 Ll*34 Mn*7 Lm Cn*4
    Nd*10 Cn*4 Po*2 Cn*785 No*59 So No*3 Sc No*4 Cn*76 No*45 So No*15 Cn*194 Lo*4 Cn Lo*27 Cn Lo*2 Cn Lo Cn*2 Lo
    Cn Lo*10 Cn Lo*4 Cn Lo Cn Lo Cn*6 Lo Cn*4 Lo Cn Lo Cn Lo Cn Lo*3 Cn Lo*2 Cn Lo Cn*2 Lo Cn Lo Cn Lo Cn Lo Cn Lo
    Cn Lo*2 Cn Lo Cn*2 Lo*4 Cn Lo*7 Cn Lo*4 Cn Lo*4 Cn Lo Cn Lo*10 Cn Lo*17 Cn*5 Lo*3 Cn Lo*5 Cn Lo*17 Cn*52 Sm*2
    Cn*270 So*44 Cn*4 So*100 Cn*12 So*15 Cn*2 So*15 Cn So*15 Cn So*37 Cn*10 No*13 So*161 Cn*56 So*29 Cn*13 So*44
    Cn*4 So*9 Cn*7 So*2 Cn*14 So*6 Cn*154 So*251 Sk*5 So*728 Cn*4 So*17 Cn*3 So*13 Cn*3 So*119 Cn*4 So*95 Cn*6
    So*12 Cn*4 So Cn*15 So*12 Cn*4 So*56 Cn*8 So*10 Cn*6 So*40 Cn*8 So*30 Cn*2 So*12 Cn*4 So*2 Cn*62 So*340 Cn*12
    So*14 Cn*2 So*13 Cn*3 So*10 Cn*5 So*56 Cn*7 So*15 Cn*2 So*11 Cn*6 So*9 Cn*7 So*147 Cn So*92 Nd*10 Cn*1030
    Lo*42720 Cn*32 Lo*4154 Cn*6 Lo*222 Cn*2 Lo*5762 Cn*14 Lo*7473 Cn*15 Lo*622 Cn*2466 Lo*542 Cn*1506 Lo*4939 Cn*5
    Lo*4192 Cn*711761 Cf Cn*30 Cf*96 Cn*128 Mn*240 Cn*65040 Co*65534 Cn*2 Co*65534 Cn*2"

def codes (categories : List Text) : CodeSet := CodeSet.ofLabels table categories.contains

/-- the code points of all categories that begin with a letter -/
def group (letter : Char) : CodeSet := CodeSet.ofLabels table fun category => category.head? = some letter

end GlslInspect.Category
