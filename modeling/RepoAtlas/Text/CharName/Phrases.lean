/-!
# Names of characters: phrases

What comes up often in the tables of names, from short to long. A phrase has a sign of its own
there and in the longer phrases, as `CharName.phraseSigns` says.
-/

namespace RepoAtlas.CharName

/-- Phrases, divided by back quotes. -/
def phraseLines : List String := [
  " $ ` $!` % ` & ` &a` AL` AN` AR` BO` BU` CA` CH` CO` DA` DE` DI` FA` HA` HE` HI` HO` IN` KA` KE`",
  " LA` LE` LI` LO` MA` ME` MO` MU` NA` NO` OF` ON` PA` PL` PO` RA` RE` RO` SA` SH` SI` ST` SU` TA`",
  " TE` TH` TO` TR` UP` WA` WI`#+ `':*`(: `(:*`8o9`ACK`ADE`AGE`AIN`AIR`AL `ALA`ALE`ALI`ALL`AMA`AN `",
  "ANA`AND`ANE`ANG`ANT`AR `ARA`ARD`ART`ASH`AST`AT `ATA`ATE`ATH`ATO`AVE`AYA`AjA`AuE`BAD`BAR`BER`BIN`",
  "BRA`BRE`CAL`CAN`CAR`CHA`CHE`CHI`CHO`CLO`COM`CON`COR`CRE`CRO`DAL`DDA`DEL`DER`DIA`DOT`DRA`EAR`EAT`",
  "ED `EDa`EEo`EEz`EH#`ELE`ELL`EN `END`ENG`ENT`EQU`ER `ERE`ERO`ERa`ESH`ESS`EST`ESa`ETA`ETH`ETa`ETo`",
  "EUT`EUX`EYE`EuE`FAC`FIN`FIR`FON`FOO`FOR`GAR`GHE`GON`GOR`GRA`HAH`HAM`HAN`HAR`HAi`HAj`HAk`HEE`HEH`",
  "HER`HEi`HIR`HOU`IAL`IAN`IC `ICE`IDE`IGI`ILL`IMA`IME`IN `IND`INE`ING`ION`IOT`ISH`IST`ITA`IVE`KAF`",
  "KAP`KAS`KET`KHA`KUR`LAG`LAM`LAN`LAR`LAT`LE `LEa`LIC`LIT`LLA`LOW`MAI`MAN`MAR`MAT`MAt`MBA`MED`MEM`",
  "MEN`MER`MIL`MIN`MON`MOS`NCE`NE `NG `NGA`NGG`NNA`NOT`NUN`NYA`NYI`OCK`OF `OIN`OKE`OLD`OLI`OLL`OMI`",
  "ON `ONE`ONG`ONa`OOK`OON`OPP`OUT`PAN`PAP`PAR`PEA`PEE`PEN`PER`PHA`PHI`PIN`PLA`PLE`PRE`PRO`PSI`QAF`",
  "QUE`QUI`RAC`RAI`RAL`RAM`RAN`REA`REC`REH`RES`RHO`RIN`RIS`RIT`RON`ROW`RRA`SAL`SAN`SE `SET`SEa`SHA`",
  "SHE`SHI`SHO`SHU`SIM`SIS`SIX`SOU`SSA`STA`STE`STI`STO`STR`SUB`TAH`TAK`TAN`TAU`TE `TED`TEN`TER`THA`",
  "THE`THI`THO`TIC`TIE`TIL`TIP`TON`TOP`TOR`TRA`TRE`TRI`TRO`TSA`TTA`TUR`TWO`UAE`UCK`UDA`ULL`UMo`UNG`",
  "UP `UP:`UPP`UPa`US `USH`USa`VAR`VER`WAW`WAY`WER`XoR`YAN`YEH`YOD`ZHE`a( `a> `aBA`aBO`aIN`aMO`az'`",
  "cOX`f+ `g$!`g%!`gHA`hHA`i+ `iHA`iLA`j% `jHA`jLA`jRA`kEk`lHA`mEm`nIo`ncN`o4o`oMA`oNG`qHA`sEs`uUu`",
  "yAx`z$ `z% `zAy`zB2`zD `zNE`zR ` Ā`ªX` ė` ĸ` NEO`ÄT`Å `ÆE` OR `ÎA`ÖI` Ǭ`#ė`#ł`#ȁ`%ȍ`%h$!`%j$!`æF",
  "`AMMA`ùA`AYIN`AȪ`Bè`Bį`Cĥ`CIRC`ČS`ĎT`CURL`ė@`Eǭ`EVEN`EȪ`Fš`ļM`FOUR`ŁM`GREE`HALF`ńD`HEAD`Hİ`HIEU`",
  "HIGH`HƗ`HORN`HREE`ŏ `Ő `Ią`IGHT`ś `śa`IȪ`JEEM`ŦH`Kś`LĬ`LŚ`Lś`Lƕ`Ų `Mā`MEEM`ŻT`NŚ`NƘ`Ə `Ɣ `OƠ`OUN",
  "D`Oǻ`OȪ`ƝA`ƝT`ơ `ơS`QUAD`ƵH`ƷG`SEEN`SEMI`ǄN`SŜ`SIOS`ǉz`ǌR`TAIL`Ǚ `ǛR`Tś`TŜ`Tš`ǢE`ǫN`Ǭ `Ǭz`ToXn`U",
  "Ȫ`WORD`aÜ`aÝ`f %!`yAyB`z¢`z¤`zä`zí` %ȩ` Bß`°SH`ȭS` Fŕ` ļ ` Ɏ` FROM` GUNU` ɒ` HUMP` ɱ` ɻ`ÒCK`ÓNU`",
  " ʉ`ØVE`!%¢`!æP`#DESC`ȷ,`#ɘ`#ɢ`#ɫ`#ʃ`%gc$!`%jc$!`*ɔ`-ʀ`001x2`0x1x2`1ȣ2`4x5x6`4ȣ5`8ȣ9`?Zĩ`ACUTE`æN",
  "T`ALƢ`îLE`Aʇ`Aȏf`AȐg`AȒh`Aiǂ`Aȕi`AkŇ`Așk`AmHAl`AnHAm`ApHAo`AsHAr`ĀB `BŞO`BOò`ĄVE`ĄVI`ćON`ĉCK`ĉD ",
  "`CIEUC`COLON`čMA`đSS`CURVE`ĒET`DìA`DASIA`ĔTA`Dɟ`ęTH`EASUR`EĎD`EDő`EɌ`EŁL`ĦAL`EXǘ`ķE#`FIFTY`FLOOR",
  "`ɏz`GȾ`GHâ`GŗL`GLASS`ŁPH`ŁVE`ɑK`ŃZA`HęT`HEAVY`ɖH`ɗ `HśE`ICú`IEǲ`JƍE`ţPA`ũDA`ũED`ūGE`Lɞ`ɨ `MIDDL`",
  "MIEUM`Nø `NIEUN`OĿE`Oɐ`OMEGA`ɱ `PHƔ`PIEUP`PLǷ`PƍT`POVOD`ƫEN`RIEUL`Rɲ`RYȃ`SADHE`SERIF`Sɋ`ǃEN`ǅRT`",
  "SIGMA`SLô`SƐD`SPACE`ǋNG`ǛTA`Tɚ`ǠDE`TǃG`TWELV`Uū `UNĕ`URREN`VAŁ`ǺIA`ǻY `VOŒ`WøR`WĥY`WŉL`XCũ`XoEpP",
  "`añB`aķE`gȁq`oYTpX`x3ȣ`y8y9x`zĉD`zŅA`zƏ.`zON;-`zǮ `zcƏ` %ʗ` ʻ` ʿ` BLƋ` ˗` ˤ`³CEa`ȮAL` ˳`¸DEX`¸IT",
  "I`¹REN` ˽` ˾`ÁUTH` ɳ ` Λ`ÔUMB`×ơ` VOWEL`#ƩLI`-ĐE `ˀ `ˀ]`BOTTOM`ĆĘ`ɄRE`ɅLE`ėǗ`ģÅ`ĸä`˳ `ɖCH`HYPHEN",
  "`řEX `KɖK`KIYEOK`KNɞ`LETǙ`˾ `Ųħ`MAđN`ŹIUM`MULǡ`NORTH `OGɝ`ɳLA`ƮSED`Χ `SśLE`SIʇ`ǊTH `SQUARE`ǐƎ`Ǒǀ",
  "`ǜRTY`ή `THUMB `TIKĳ`ǧî`ǧƦ`Tʆ `Uɪ `ǵħ`VIưA`VIɿ`VOWEL `gdȺ`ghȺ`giȺ`gjȺ`gkȺ`gmȺ`gnȺ`gtȺ`hINITI`iŹh",
  "f`jfȼ`jiȼ`jjȼ`jnȼ`nYʍ`x3x4x5`y5y6y7`zRAPH-` ACɄ`©ABIC` BESœ`®Ĭ ` ϥ`¯RNER` ˘ `²AĿ`²Aſ`²Vœ`ȮGER`ϒ)",
  "`ϓ `¸Sœ`ϖz`ϗ)`½TTLE`ÀĖL` ϴ`ÂRDAj` NUżA` ϻ` Ͼ` Ͽ`ÓDǲ`#Ͽ`(ʡ `)ʼg`-řő`-Ϯ`-ǐǮ`åTä`ALǙNA`AMULIYA`÷Kë`",
  "ĀRě`B˅M`BETWEEN`CEDŕA`ĉVü`ϥD`Ɇě`ĐEÔ`˗IN`ĖſD`ĠCǤ`EƩLON`ļWò`FƭTIO`ōTEEN`HUNDRED`œOŁ`LOǪL `ϲ'`N2ʦ`N",
  "ASţI`NĳƯ`NITɛ`NSβ`NЈ`NVELOPE`ƒđN`ƔpǬ`ORKHƓ`OUNTâ`ɳĀ`ơFECT`PɖPH`ƨXŖ`QUóER`R·UR `REǻSE`Rŕő`ƷKLED`S",
  "CRIPT `SECʇ`ǂPě`ǉTEEN`SŪǗ`Tˀ-`ǜĳH`ǝUƾ`ʊě`Tκ-`UCCEĜ`UPʥ`UƩLON`ζNT`VISARGA`YENISEI`aϾ`Ȋ:Ö`fϑ`iP˅`u",
  "IȢEu`ulȁql`x7x8x9w`ȣ8x9w`ʓyCy`z²ú`zɯ$ `zɯ% `φ$ `φ% `ȪDAY ` ăCť` ɇâ`²ˮ`ȲsǬ` ƨDUCT`ÔROUGH`& Њ`-ɔě`",
  "-ɔED*`ʶx3x`ANUSǺA`ARĈő`õEƸK`ĖLYTIK`DOESȰ`ėɥ `ˤS &`ETpν`GƲǙa`ɗjŲ`ōAGë`Ŕʠ`ŬŘ$!`ŬŘ%!`MOVEɬ`Mɸì`ORNA",
  "ɬ`OTIFIě`ƧCEDES`ƩLI)OX`ROTøD `SœǽS`SŽɟ`ǐAɞ`Ǭʛ`TpXoApPo`γĀ`Ќ& `aч`iѱ`©ĈŜ` ф `ϏÕ` OơúR` Μě` Μś`дn+",
  "` ұ` ѰD`Õ¾Ǿ`ȵʿ` ҵ`#<ж`#Ҳ`0t1t2t3t4`0y1y2y3y4`1y2y3y4y5`AȡIsOsU`ČCKWISE`Ď˹D`ĖĨǈ`ĖĿä`ɏʛ`FǰÐOP`INǙS",
  "ECT`INǻǗ `ɥ-ǚN`LIGAǫE `NEGAʈ `ƝĥHES`POǐOPHE`ƩLI)Ǻ`PUNCTUATI`ƫSʇ]`REǨFLEX`ѦD `SYűBŭ`TĠΙ`ʋǜRD`Vü G",
  "ROM`VOąőR`ҵA`Wĭ-ĐE`ȁ#˱`ѻhf`t5t6t7t8t`tćRIħ`y6y7σ`ȣ6x7x8x` ϤÕ`ώɟ`Һa`Эí`бȩ`ÌѮ` SEɵǤ`#ӌ`& Қ`-1o2o3ȝ",
  "5`-Μɟ`0ȣ1x2x3x`пǖ`čĂɟ`ĎSONï `ĠɬÅ`GEɐŻI`ITpXoIpPpE`LϷ¨`϶Eõ`϶Wĭ`њƔ`њǘ`ɶɛDI`ƾS-Τ`ήʛ`ЃSœ`WèƥƂ`WƸT FL",
  "EX`ȉDIFIER!`jҨ-`jdң`nOʍOoPn`Мx6x7`Тɤ`ÄRMäǑ` QUOTϡ` ҮTW`ӃAA`#ɅUMFLEX`ʬЎ`ȷ@Ў`ʸx7x8x9`=(ÕϜ`ϣĂDU`ӷ&`",
  "˨ƥƂ`˯ ACCEN`ђƣC`ɦ@Џ`ɰё`ơISPOŻI`ɻЯ`ǇALǲUN `ǇPLIFIě`ӠzR`gALƜRAë`oFşϓ` пʆ` ӕIS`#ʼЏ`=(Ӂ `Ƚ¿KSURA`Eμϡ",
  "`яNȲ`ĽϙĽ`GѓǏP`GƲǙ-ǚN`˳nϱ`ӐŜ`ӘƓ`Ѧ SƐ`ԁ ?`SUơѩ`Ԏiz` Ѷʞ`#ԧ`Ӳo6o`ïIӊ`C-ԟ`˛ocƩLI)`˛qcƩLI)`Ӓȳ`Ǭsɚrɏ`h$",
  "!ɯCOPǞ`oUTpXoUpPpRXp`tdӢ t`teӢ t` CUM ƨLˀ` ɈYҐ`¶Ї˨`#хБ`ABːϠ&`IʍIoPoEXoEp`ίһ`ҏѲ`еҐ`#Ӛ ɘ`-00s1s2s3",
  "s4s5s6`Է7o`:´RPƘ#ˌ`AtUtItAAtEEtEtO`ϵůϠ`ʄSURΠ FR`WAAteӢ `WAՀ`XpOqPoOTpXoOpPo`Қkѷ`_mѻnЕ`ՎUP`ʼkɅUMF",
  "LEXk`ɅUMFLEXП`˦ҰĵS`ɏpšoǉpɋ`ƩLI)Ԝ`Ǭuɚtɏuš`ʍIoPoҡn`XpEqPoAҳUO`ldѸlў`leѸlў`ӃVOąőL`ӳЅLE`ALϜө`ɍЩS SƧA",
  "`ȢIuAþĶuOuWAs`У¶ЇWAL`ҙԓ`ӇНy8y9`ՏtWAs`AvAuWEՀ`gԧuπ`ӆӥ9s`0v1v2v3v4v5v6v7v8v9u`ճx`XoOpPԉEXnEoP`vc1v",
  "c2vd1vc3vd1vd2ve1`vd1vd2ve1vd3ve1ve2vf1`Тϯ Ү`CJK UNIFIěђPH-`#˥DEDРл`_kѻlЕlЖ`_lѻmЕmЖ`ƔjǬkɚjɏkšjǉk",
  "ɋ`ƔkǬlɚkɏlškǉlɋ`ʻlƔlǬmɚlɏmšlǉmɋ`ƔoǬpɚoեo|oɭ`K˅G˅ƄiC˅J˅ƉiǪkņ`շ1շ2շ3շ4շ5շ6շ7շ8շ9ӆt5t6t7"]

end RepoAtlas.CharName
