/-!
# Names of characters: pictographs

Game pieces, enclosed letters, pictographs, tags and selectors. The layout is that of
`CharName.tables`.
-/

namespace RepoAtlas.CharName

def pictographs : List String := [
  "aMAHJƕ ǠE EõÙNDnfǊTHnfWĭnfNORTHnRěĘĿnhɑNnh~nɰƌĈƭǙSnoǬooɚnoɏoošnoǉooɋno|noɭnɰƌBAMBOOSnlǬolɚnlɏolš",
  "nlǉolɋnl|nlɭnɰƌϥSnlǬolɚnlɏolšnlǉolɋnl|nlɭnPLUMnORĊDnBAMBOOnCHRYƾǛMUMnSPɻoUMżnAUTUMNnWINǙncJOKnBß",
  "¡4afDƒNO ǠE [n-00Ռp1Ռp2Ռp3Ռp4Ռp5Ռp6Ռm<ʙn-00Ռp1Ռp2Ռp3Ռp4Ռp5Ռp6Ռ¡12aƥYɟćDʙnACEȱSPàSnkǬokɚnkɏokšnkǉ",
  "okɋnk|nkɭnkǘnkJßnkϯnkΞnkɤ¡2nACEȱ˲SnkǬokɚnkɏokšnkǉokɋnk|nkɭnkǘnkJßnkϯnkΞnkɤnRěJƎR¡1nACEȱыSnmǬomɚn",
  "mɏomšnmǉomɋnm|nmɭnmǘnmJßnmϯnmΞnmɤn> JƎR¡1nACEȱCLUBSnjǬojɚnjɏojšnjǉojɋnj|njɭnjǘnjJßnjϯnjΞnjɤn~ JƎ",
  "RnĻLnTRUMP-1t2t3t4ӥ9t10u1u2u3u4u5u6u7u8u9t20u1¡10aʻ ӏg˖bgƔbgǬcgɚbgɏcgšbgǉcgɋbg|bgɭaDśBöч ԁϋiyӔҶ ",
  "Zĩ#ΩiԸ*iDƑð&#ϸIDʙΩaӕIZěҦAwBwCwDwEwFwGwHwIwJwKwLwMwNwOwPwQwRwSwTwUwVwWwXwYwZaǤTOIƿǃLLҐěҦSҶ.ҦCqRh ",
  "CDiWZbOPY(;ѹD ҦAqBqCqDqEqFqGqHqIqJqKqLqMqNqOqPqQqRqSqTqUqVqWqXqYqZiHViMViSDjSiPPViWCaӔч ҦAzBzCzD",
  "zEzFzGzHzIzJzKzLzMzNzOzPzQzRzSzTzUzVzWzXzYzZaϹ MC &icDicRҶ CCj#ϸIDʙΩiHUŴ FIGUREaӔϾD ҦAzBzCzDzEzF",
  "zGzHzIzJzKzLzMzNzOzPzQzRzSzTzUzVzWzXzYzZa˗ěӔϾD ҦPaӔϾD ICrPArSArABrWCѹ DJgD CLjOOLiFREEiIDiNEWjGi",
  "OKiSOSiUP#ԨiVSiЂDiSˠ SĐENiʋKicɏic|iɍ ΜȲikΥiѲʋΜȶiǉTY Pieԛ TWENiҧDiHCjDRjI-ƵiLOSSɥiSHViUHDiVODaMAS",
  "K WORK;¡56aREGŜäř˷R;!AuBuCuDuEuFuGuHuIuJuKuLuMuNuOuPuQuRuSuTȢVuWuXuYuZѹ Ҥ·KAgD Kс KOKOrSA¡13iվ62",
  "4BО5B57О53CCiKс±iվ4E8CО591AО89E3О5929О4EA4О6620О7121О6599О524DО5F8CО518DО65B0О521DО7D42О751FО8CA",
  "9О58F0О5439О6F14О6295О6355О4E00О4E09О904AО5DE6О4E2DО53F3О6307О8D70О6253О7981О7A7AО5408О6E80О6709",
  "О6708О7533О5272О55B6О914D¡4aǤTOIƿǃLLҐěվ672Czվ4E09zվ4E8Czվ5B89zվ70B9zվ6253zվ76D7zվ52DDzվ6557¡7Ҷ ђ",
  "PH ADVïátCCEPT¡14aΠED;ʝFUnLUnǅUnXIncǆînCAI¡154aCYČNEaFOGGYaшUMĄűaNɞ#ʂSaSUNƸEϙMџSgEaCITYSCAPE öDU",
  "SKaSUNǀϙBUILDśSaƮNBOWaBRIDGE öNɞaιʨaVOLĆOaŽKYØYa˞ GLOBE EUROPE-AFRICAmAżICASnSIA-AUǐçAaGLOBE#żIĖ",
  "NSaNEWÁON;agWAXɟĐSɄagĹST ѤagWAXɟGIBBOǹgFǰagWANɟGIBBOǹgLõ ѤagWANɟĐSɄaĐSɄÁƖNEWÁON#ķEakĹST ѤauLAakF",
  "ǰagSUaGŲɟʂaiǅOTaʅMOMEǙȅDROƦTa~ÑNf#% ČUDfg BEHřs#ƮNakgSNOWg˾NśgǤNADOaFOGaWř BŲśϐHOT DOGaTACOaBURƹ",
  "OaĉSTNUTaSEEDɧaEǻɑNÖEEafDECIDUOǹfPALMaCACTǹHOT PEPơaTULIPaĉRRY BLOSSOMaROǁHIBISCǹSUNFŲĪBLOSSOMaę",
  "ȱųZEhRŒaŋBaɏ¼AF ČǻaMAƦ¼AFafFèENaLEAF FLUTǙɟŘWřaMǸROOMaTOŶOaAUāGŚaŁPĮMELƖfιaǔGEƷEaLEſȆNëaƤEAPƦafR",
  "ěagɑNaƞRdCHaĉRRIĮǐAWāRYaŃBURGĪSůEȱPIZZAaMĚÆªNEaPOULTRY¼GaRŒ CƭKERfɂaCƗěRŒbeURRY)aǍAžGªWLbPAľTTIa",
  "ĄADaFRENCH FRIĮROõěSWEETÉTúaDîOaODENaSǸIaFRIěSHRIMPbŞ¬KE#SWIRL±&aSOFT Œ ĐAMbHûD ŒaŒ ĐAMaDOUGHNUT",
  "aCƗIEbHOCOŬEȫbìYaLƑIPOPaCUʂDaHƔYÉTaΧCAKEaBĥOȬaPOTȱĻDaCƗɠļK)KNIFEaTEACǳWIǝUT ɓŮSAKEªTTLE)CǶWŚ ˭ag",
  "CƋʃaǨPɝ DƷKaBEħMUGaCLINɤ BEħMUGSȆBYªTTŮļK)KNIFE#ƥTEȇTTLE#PƙɟďKaPOPďNaRIBBƖWRAPPěƧSĥaBIRTHDAY¬KEa",
  "Jß-O-ŪǙNaCHƸTMASÖEEaFAʅ®ƸTMASbIREWORKSi SƝKLĪɂƘaɶYÉPơaĎFETTI ɂaǔAB÷ÖEEa˗ěFŨSaƤE±ďˀaJAƛEƿDƑSaćPÐƲ",
  "żaWř®ŗȉƓVIEWɟCĨſYaSċOLÍTĉLaŁDUϠCAPa˲#ǡÆÔE (ȇUƫTȱFŲERSaŽŠRYÀĒaREžĕ RIBBƖMUSɝºYˎ#JßSaSTUDIO MIđΙaL",
  "EVEL SLœRaɇROL KNOBSaBEAŹ ASCģɟMUSɝȰEShwDEacFILM FưaADMISɿ ǞťSaćOUSEL·RǁFERƸ λaRƑħCOõĪFŞɟPOLE)FŞ",
  "aMIđΙbOVIE¬żAaCŚMAaɔΙaóşÇLETTEaǣ´TaɅǷǘTaǞťaCLAPɷˎaơɎɟóSaVœO GAMEaDIƳT¶TaSLOT¿ĊNEaBŕIòSaGAME²EȇWɧ",
  "aFϲƥYɟćDSaMUSɝȰEcLǡŭMUSɝȰĮSAXOΙaGUŠRaMUSɝºYˎaTRUMPıVIƐNaMUSɝ SďEaRUNNɟǄRT#SôaǘNISÊCƫT)ɂaSKI)SKIª",
  "OTȆSťɂ)HOOPaĉƫRěFŨaSNOWˎĪcRUNNacSURFbPORTSÀĒaǨPHYaHORƿƭɠAżIĆ ĻTɂajRUGBYaSWIMżacW|½FTacGOLFaƭɟMOǤ",
  "CYCLEhćaCRICť BAT)ɂaeVƑEYaeFIELD·CKEYÐICK)aŒ·CKEYÐICK)PǮaTABŭǘNISÇDDLE)ɂaSNOW¬PPěMџaCAMPɠBEACH#U",
  "MĄűbUIL˝ĎǐUCʇaŎƿBUILDśSaCITYSCAPEaĕEůT·UƿBUILDɠjCLASSɝaDESERTg ISŪDaNˀäƝKaǌDIUMaŎƿBUILDśf#ĽDENaO",
  "FFŒ«ILDɠJAƛEƿPOSTÅFŒamEUROƞNaHOSPŠLȆNKaAUTOŶěTġħMAĊNEaHOTELafLOVE aĎVENIEƁÐOREaSċOLaDEɶɬÐOREaķǤY",
  "aIZAKü»NǙNaJAƛEƿCõŮhEUROƞNa~ ƠNïai>aWAVɟ~ FŨhf>aROǀTEah> aLABELȆDžǢÊCƫT)ǆTTLECƋbOW)ARƻaAMPHORAaE",
  "MOJIÁDIFIħFITZPAǧCK TYPE-1-2zK TYPE-3zK TYPE-4zK TYPE-5zK TYPE-6aRATȉUǁOXaι«FFALOaCOWaTIGĪLEOƝDa",
  "RABBITaCATaĘĿađCODIŮcWHAaSNAILdKEaHORǁưaGOATaǃEPȉNKEYaROOǍRaĊCKENaDOGaPIGȇARaĠƢNTaOCǣǹSPIƯÎġaBUG",
  "aïaHƔYBEEaLADY BEETŮFŞaeǨPɝ aeBŲaǫTŮHATĊƃĊCKagBABYakFƺT-ķɟaBIRDaƠGUINaKOåaPOODŮDROŹARY¬MELagBACǧ",
  "ANaDOLƣNȉUSEϐfCOWafTIGĪfRABBITagCAafĘĿaSPƚɟWHæaHORSEϐfſKEYafDOGagPIagFROafŃǍRafWOLFafBęafƛDAbIGÄ",
  "SEbAW PƷTSaĊPMUNKaĵScEbARaNOǁMƚHaǢGUEa~×ҽʙɓϓcy^cy(cy'aFşěɓ¦hWAVɠhOKacTHUMBS×hc^acCLAPPɟɓSaiɱađWN",
  "aWOŴS´Taĵ˭ĮNECKǟaT-ǄRTaJEANSaDƵSaKIſOaBIKINIaWOŴS ČǛSaPURǁɓBAGaPOUCHaŴSÎOEafùLEǞafɗ-ŉLĜWOŴSÍNĒhB",
  "OOTSacĻTPƷaBUST¸ÏLŎETTEeoSbOYaGIRLaŴadWOaFAŽYaŴ)WOŴ·L˝ɓSapʋMEerWOaPƐCEÅFŒRaWOŴ#BUNNY ęSaBRœ#VEIL",
  "aɸON#BLOND´IRaŴ#GUA PI¿OeǫBANacƏħMgdWOȆBYaĎǐUCʇ WORKĪPƷCĬaJAƛEƿOGREjGOBLINaGHOSTȆBY¨GELaEXǥǙƵǧäç",
  "ENaçĢſǍRaIMPaSKǰȈɎϠDESK ɸƖGUòSŴaDAƁRaLIPǎCKaNAILÉLŞο¿ǋGEaHãCUTȆRāÉŮSYɻEaPŕaKISS]aLOVE ϰaɻaGEMÐƔa",
  "KISSȇUƫTaCOUƦ#˲aWEDDɠBĚɟ˲bgRƎNaʋ˲SaSƝKɧ ˲ajGƻa˲#ARƻaBLUE ˲agɑNagYġOWagPURƦa˲#RIBBƖREVOLVɟ˲Sa˲±ďˀ",
  "aыȴPE#AȭЬaĠCǧCϗ«LBaîER;ȇMBaSLEEƤG;aCƑIɿ;aSƥɾG SWĚ;aDROƦTbô;aPIŭƌPOOaFLEXěBŒPSaDIZZY;aSƟCH ɂƘaiǝU",
  "GHTa~ FŲĪё ΜS;ȉNEY BAGaCδCY EXĈNGEaϩDƑð&aĐDIT¬RDȆNKƇE#YĢ&jcDƑARjcEUROjcPɲȉNEY#WśSaĈRT#ǴÖģ)YĢ&aSĚ",
  "aɸONäčPUǙaBRIEFCAǁžIDISCaFLƙY²SKaOPTɝ²SCaDVDaFIŭFƏĪlΘaPá#Ɉe³CɟǶąģARaiTę-OFF aćDϓbŅT#ǴÖģgh^ȆR®óaC",
  "LIPˎaPǸƤahΠ aƜERCLIPaұ RULĪgЅUūȇOKŵKÒBSaLEDGĪƇEBƗi#DEďAʈ¯ǻaшBƗafɱahGREafBLUEagOƱGȇOKSaNAME ÿGEaS",
  "đLLaźOaӝËCEšRacPAGaFAX¿ĊNEaSøLŰE¨ǘNAaPUBů ADDƵS¾UDSƞKĪĉEɻÀGAΙaƚBOXÖAYaiINaPßáaE-ųL;ȈčɟEћaEћ#^:*,",
  "aшųLBOX#ŲĨD FŨphƮSauɱnhŲĪPOSTBOXeäəaNEWSƜĪMOBIŭΙm#Û ö(aVIăʇÁDEȉBIŭΙÅFaNOÁBIŭΙSaïEƆ#ĀSaCAżAg#FLôa",
  "VœO¬żAaTĠЋaRADIOaVœOCASǀTEaFILM ƨJECǤaPORTABŭǍREObRAYħBEADSaTWşěÛSacӊ ':)ÜΘϥzLE*S#чȲ ϸYk^:)ǴʣУ*S",
  "azïIČCKaɩB'NĬ;aiɗaSƞKER#ĆCġϠϿgRh#ɰSɲʨiЂSɲʨSȆTǙYaĠCǧCÈUGa(ӳMAGNIFYɟ˭Ȋ-aLƋ#INK ƠaшLƋ#KEYadaLƋaeΘaB",
  "ġe#ĆCġϠϿbƗŵKaLINK;aRADIO«TǢȆCK#Ý,afģacON#Ԩ#( 'acSƘ#':adǣ#ǶNOȲ γ |EEN;aKEYCAPÓNȈPUT;ʝŬŘ$ ϰSri%ldN",
  "UMBk;Sk»TŘϰSaĹEaĠCǧCÕRCHacWRENaŃżaNUT)BOLTaHOċaPşOLaMIđSCOPEafTĠaCRYǌL ɂaǉҼʂ#=ėaJAƛESE;ʝBEGINNĪǧ",
  "Dĥ EMBLEMȅϾ«TǢao~a˽ËDУghBLUEgOƱGEЧDgjBLUaȔOƱGcjBLUaUPӳREDӂaw^anUPӳ%ay^acєȴDOWě~ ɅawǵҶώÉMMEEbROSS",
  "ÉMMEE#ɒ-ϥ@lEaƇ˓( ɽϥ#Ԃiw'aSYMBOL ļ]S®APǙa~»TŘ˗am˳agCELǞaOM;aDOVEȱƞCEaKAABAȉSƫacSYNAGOGaŻORAH#ɭ ăN",
  "ĉSȇWLȱHYGIEIAaČCK³CEȲ OČCKlhǬmhɚlhɏmhšlhǉmhɋlh|lhɭlhǘljĠVlhαElƔ-ЁlhǬmhɚlhɏmhšlhǉmhɋlh|lhɭlhǘljĠV",
  "lhαEa' SƞKERj#ɰSɲʨkЂSɲʨSaBǰəi#SɲʨSaɻɟBġȇOKaĆDŮŴTELPIECE ČCKȅSKǰ)˗BƔSaNO PIƭYaHOŮŴ¸«SŚSSÑIT¼VŠʆaS",
  "LĳHȳSPYaDARKÑN˭ĮSPœRg WEBaJOYǎCKaŴ°NCɠ( ɓ ӝËCEšRaӝËCEšR#Páa' ɓ ӝËCEšRa~ÕUCHʉ ӝau>aӝÆÕPȱMODEMaCũǃ",
  "LLÁBIŭΙȆCKȱEћajǌMPĜEћ#˾NɠFLYɟEћajƠϙǌMPĜLINKěƜERCLIPSȅPǸƤaϲ( ƠCILiɂΜ ƠieFџiPâTBRǸiCRAYƖ( WƹɟɓaѱOK",
  " ɓ¦Ϲ ɓ#ĸGERS SƥYEDbzEǻSěRAjTHUMBS× &qc^jVICǤY ɓjɓ#=ĸGħ˥DEDbAISěɓ#ɶҹΑE)ɻЩSa~ ^ҽ ( ɓϓagү ~ (ҽlp'jp",
  "> (lp'ag> (ҽʙɓcy'agү ~×ҽlp^jp>×lp^ag>×ҽʙɓcy^c˲aDESKǣ¯MPUǙaKEYˎ)MOUǁЂNEǬRKěčPUǙSaPƷǙbƋET¬LCUŬORȅŅ",
  "DÎġ FLƙY²SKax~asSOFTaTAPE¬RǧDGEaWIRěKEYˎaɰBUTǢÁUǁnǬbnɚbƭKɂaɯɸONäčPUǙaŅD²SKaSĐENaPƷʄIĎafFAXafOPTɝ",
  "²SCaDOCUɬ#TEXTn)PICǫEjhaiFưEgǠESgêXȅFƏĪgagΘaćDϓШRSfFILEȬaFIŭCAĂıEMPTYȰEkÇGEnDaƇEeÇGEhDaEMPTY DOC",
  "UɬgPákSaDOCUɬaPáeSaWõEBASťaSPIƯȰEÇDheąģARaDESKǣÙNDOWažIMIZEbfAXaϸPaӊ ')( ɽϥ*SbAƁLLϠXȈĐAƿĺTÏZE;ar",
  "DEačƧSɿaɯKEYaRƑED-ǳNEWSƜĪPá#чÓXTaǏCK®óaDAGGħKNIFEaLIPSaSƞɤ ɔ¸ÏLŎETTEaЂRAYS,k@k (l'ȄSƟCH«BBŮo'aʋS",
  "ƟCH«BBLESbpɚȄǝUGHT«BBŮp'ah(¨GĪn'ahMOODal˾NɟnDaɂOTȬ#ɂOThѩXhiBOX#jiLD jlX#BOaϱ˒]aɂOTȬ#Bɯ˒aWORLD¿Pȉ",
  "UNT FUJIaTOKYOÕǾaǌTUEȱLIāTYbILŎETǖƌJAƛȉYAIaGƷNɟķEn#ҰĵSο#TęSȱJOYaҰ˦ɱϘx)ҰĵSyCɯSWĚyTɞLY-шĵSnHALOoOR",
  "NSaWINɤϐҰդοÍVOUɻ±ůIOǷĻDaRELIEVEDϐҰ˦˲-ѫĵSncSUN˭dRɤϐfїafEXƧSɿɥafUNAMUSĜ˦CɯSWĚaƠSšϐfĎFUSEDehɲafKISS",
  "śοÔƻɟA KISSaKISSɟդnfɆĜ˦STǮ-ƚÕNGUEv)WINɤ ĵwTɞLY-шĵSaDISAPΜEDϐhWORRIafîRYafPƚɠiCRYaiɸEǻο#LƗȱǧUMPHa",
  "DISAPΜěBUTËLIEVEDϐFƻNɟ˦ɱϘaîUŞEDϐfFęFULafWęYagSLEEPafTIRĜfGRŖCɠiLOUDLY CRYο#ɱϘaHǸEDϐ˦ɱϘ)CɯSWĚe SĐ",
  "AMɟŘFęaõONŞEDϐjFLUafSLEEPɠfDIZZYοÙǝUTϘe#Źɝ¿SKaGƷNɟCöդaCö˦TęSȱJOYaҰCö˦ɱϘr˲-ѫĵSaCö˦WRY SŽEaKISSɟCö",
  "˦шĵSaPƚɟCATϐmCRYajWęYafS˾LY FƻNśjiSŽafUƩDE-^ο#RƑɟĵSfNO GOOD GĭUREfiOKaɸƓBOWɟDEEPLYaSEE-NO-EVILÁN",
  "KEYapHęapSƞKaHAPPY ɸƓƮSɟɰɓaɸƓƮSɟBOTH ɓS¸ CĠăʇhFƻNśg#PƚɟķEhFƏěɓSaӽҽ¼AFavǊaq϶EAavǊaqѱ϶WEhvǊhq϶EAhv",
  "Ǌafӽҽ VŚazǊTav϶EAazǊTavϩ϶WEgzǊTgv϶EAgzǊTaӽҽ«DauǊap϶EAauǊapϩ϶WEguǊgp϶EAguǊbOLɩƬLTе Ҫzĥ¸ >еaΪ ƬLTе",
  " ҪzNT¸ >еʐRƋıiǶi'ai^aѩӓET ҪazϩSCamӓɱazϩgjAҩatSWôbjANS-Τϒ + ѱ˖ԍtzrzɩ+ ajϩINǙROBîavԁazϩƾS-SaηϩΪUSl",
  "hѦ a˒ħˎanѦ bƋıHEůOPǙaǍAM¾čOʈaƮLǽ¬Raɗ-SƟDÖâq#BǰETÄǁǥINaMEǨaϱƮLaǌʇaǥMe¬RaBǹdONčɟadǨLLEYaBǷǏPažIBǹA",
  "MBUŪCEaĹE ĤŚaPƐCE¬RakONčɟaTAXIaeONčɟaAUTOMOBIŮkONčɟacƳƲʇäVEHICaĔIηTRǮaóICUŬěLORRYaǥCǤȉNOƮLcUNTâÊ",
  "ILǽajSUSƠSIOadMџ¬BŮdAERɛǥMaǄPaƻBOATaeSƟDa[ÖAFFő˾ao<aĎǐUCʇ¦PƐCE¬RSËVOLVɟ˾aЅβFŨÆÉSTaDOORaNO ĥRY¦SM",
  "Oɤ;aiNO aPUT½TʄŘITSÈACE;aDOȰ½TǙ;aePOTABŭWAaoNON-aBICYCŮNO BICYCLĮBICYCLşajMџ aPEDĭRŐaNO PEDĭRŐSa",
  "ĊLDRĢъGaŻS;afWOaƵǨOMȆBY;aTOILıcι ɆaǅǾȆTHeTUBaPASSPORT¯NǨLaCUǏMSȆGGá CLAIMȄLUGGáaЅLE#ΠEDФSaƨHIBIǗ",
  "¦ч¸ɎϠǊRCEȇYS;acGIRLaCOUCH)ũPaSLEEPɟACčMODˀbHƙɟBAGSaBġHOP BġcDaƥCEȱWORǄPaOCTAĿä&aǅPƤGÖƑEYbTUPAaPA",
  "GODAaHřUÓMƦbUTaĠVúR¡5aƥYGΠ SLœaλaɻ«OYaŃż)WRENCHaǄELDaOIL DRUMȉǤǽaƮLǽÖßȉǤªATaUPӳŽŠRY ãƥNEmimi% ak",
  "ajNORǛõ-ΜɠãƥƂDEɶUREjARRIVś¡3aSøLŰEaONčɟĹE ĤŚaDIESEL¾čOʈaPASSĤħǄPaSCOOǙahMOǤ aĆOEaSLĜFLYɟSAUCĪSKø",
  "ˎaAUTO RICKǂWaPICKǳTRǮaRƑħSKø¡3aALĉMɝ;ʝƬNTĬEƁqãqĹEq˞qιqAQUAļTISuËGIAzA-2vVŠEzE-2qVŚĽx-2y3qSULFUR",
  "qgƣLOSOPŋS qh>qżCURYÑBLŖTEzUBLŖTE-2zUBLŖTE-3qCIƆĀqƽTqNIǦqVIǧOLx-2qRƋÍLTz-2qGƏqSILǻqIƺ OREy-2qđCǷ",
  "ƌIƺqkREGULqCƙħOREqkIƺ-qǑLŖǖƌCƙERqkđCUSz¯Pơ-2rƙħïIſIøqsƽTȱrUBLŖǖƌƽTȱCƙERqǻDIGƸqTŘOREqeLEADqeïIſYq",
  "ǑLŖǖƌïIſYrmALTrpUBLŖǖƌSqmVŚĽqmREGULUSzF¨TIſY-2wSx-2y3y4qALKçw-2qŵCASITEqƽ-AMſIACqARSENICqƲLĽx-2q",
  "AURIPIGɬqBISMUTH OREqTóARw-2qƬCK½MEqBORAXv-2w3qALUMqOILqSPIƹqTINCǫEqGUMqWAXqPOWĕqąXqTUTTYqCAPUTÁ",
  "RTUUMqSCEPʄƌJOVEqCADUCEUSqǧDĥqhʂRěqLODĭƔqSOAPqUƷEqHORƿDǲqôESqfPOT qBRICKqfPOWĕěqéLGAMqǐATUMÑɷǐAT",
  "UMzUɷǐATUM-2rUBLŖʇqƧCIPŠTEqDşŕtSOLVEy-2qPURIFYsǦķʇqCRUCIBLEy-2z3z4z5qæMBICqBùȱŵYyVAPOURSqREǤTqŎR",
  "qNɞqfDAY-qſTHqɒ ĘMvOUƁ¡12ȅ(ӳISOSCĠS 'ӂczUP-Pƍcz'-Pƍcz^-PƍccS˾LY¤Ʌahϴ Bɯ~anaj˳aoηaqEXǦMELah~Уґɟ> ",
  "%aΠÒRGı> TINYеchS˾LY %ahϱ~ajϴajBƏaj˳aoηaqEXǦMELah~еґɟ> η%whϴѹÒRGı> TINYЧDciη%ckϴak~ЧDґɟ> ǻYxiϴaы",
  "ÒRGı> TINY¾ZĤEciη%ckϴak~¾ZĤEґɟ>aǜN ˰ώam˾amϴamBƏaqηfm˳atEXǦMELaǜNÍLTIREai˾aiϴaiBƏai˳anηapEXǦMELaϱ",
  "ɍ SPƎD ҜavϴavBƏav˳azηHazEXǦMELY HaqϱǉauϴauBƏau˳azηazEXǦMELY aqϱ|asϴasBƏas˳axηaϱήҼ> ʂavϴauafϴ ήҼƤ",
  "λafϱɏҼ>auϴatafϴ ɏҼƤλazѦϗ FafϱɍҼ>au˳apϴÏXat˳afǉҼƤλafϴ |Ҽ>ar˳awηafϩ|ҼƤλafϱαEҼ>aw˳vfƤλҶӂaqӔҶеaoӔ¡7a",
  "˽ OƱGEУghYġOWghɑNghPURƦghBƻNgRěϾghBLUEgiOƱGghYġOWghɑNghPURƦghBƻN¡4aϩҠ¡15ʑ#%ӂʳasǶs'as^aoÝ#ϴaxǶx'a",
  "x^aoÝ#˽awǶw'aw^¡4afÝ#% ĦIŬEƯavǶv'av^aqÝ#atǶt'at^atϩ(gtUPgt'gt^gqÝ#˽ gzUPgz'gz^a(:ӂҘ#NARƻȴFTazǴȵA",
  "ѺIAaz^:ȵAag(:ӂҘ#ϴazǴȵAѺIAaz^:ȵAag(:ӂҘ#BƏazǴÖѺaz^:Öag(:ӂҘ#˳azǴȵѺIaz^:ȵal(:ӂҘ#ηazǴӂѺIʿaz^:ӂa(:Щ-PO",
  "ST*aoǶo'ao^ʐϾD*akǶk'ak^adÜčƧSSanǶn'an^amÜ˳atǶt'at^ʐ˳*aiǶi'ai^¡8ʐԁ*anǶn'an^amӽgoEAatǊgoWEam( 'amǳ",
  "^¡6aWœҗÜϱĀB*mnUPmn'mn^mmӽsoEAmtǊsoWEmg(:mhUPmh'mh^mgӽsiEAmnǊsiWEmgÜϴmoUPmo'mo^mnӽspEAmuǊspWEmgÜ˳",
  "mnUPmn'mn^mmӽsoEAmtǊsoWEmmÜǻYmsUPms'ms^mrӽstEAmyǊstWE¡8a(:ӂʳapǶp'ap^aoÜ~*ÙǜNazǶz'az^ʑ#Ƈ˓ʃapǶp'ap",
  "^a˳*ȴFTÙDTHȲtӞStɰɒxǜRDʐϢ-ǂDě~*aj': Ϣ akÜǣap'ajÜ(-ak': 'an(ak': (af(:ʙ-ǠǗȴDOWȊatÜFƺTȊ:a~*ȴFTÙDTHȲ",
  "pӞS¡2aARƻҽ×:ÔĢӽph':ÔĢCURVɟǊ¡78ҶώʞEE#ӎvfǬtEaйϥ#ӎofήpfWOoėmEa^Wò³CɟɘneƇ˓nɘȷniƇ˓aƤĉDЩSa~ ˲agBƻNaƤĊƃ",
  "ɓaZIPơ-MƚHϐlſEYο#ʅMOMEǙaNERDϐfǜNɤο#ɔ-BìáaROBOTϐfHUGGɠ&ȱǛ əSaąLÀ ɓafϹʙÅa(-ķɟFşam'aɓǂKEe#řEX)=ĸGER",
  "SώĜI¾VE YOU ɓ¦˦COWBOY´TaČWNϐfNAUSĚĜRƑɟƓǛ ˨»UGHɠDROOɧϐiLYοÇLMaSNEEZśϐ˦ɰĵBƻ ϹaGƷNɟ˦ʂ ĵSoɰ˽)ɰ% ĵο#ĸ",
  "GħCɳɟшLIPSaSERIOǷ˦SYMBOLS¯ǻśϘbpŽɟդ)ɓο#ɱϘ VƒʆaǅCKě˦EXPLO˝ɔaƧGNï WOŴaĄõ-FEEDɠPALMS×ÕGİĪSELFIEaPƷCE",
  "aŴ¸ TUXEDObOʅ®ƸTMASaSHRUGaɸƓDOɟćTλaJUGGɧaFEƁRȉĕN ƠTùLƖWƵTLERSbøRÉLOaɓɂaDIVɟMASKaWILǗ FŲĪDRUM#DRU",
  "MǎCKSaCLINɤ ˭ĮTUMBLħ˭aSPƘaGOäNıRIFŮĹSTÈACEÀĒamSˠanǜRȇXɟGLOVEaŵTɛóS UNIɎaɈɟSʉaLA˗EÐICK)ɂaeSOFTaFL",
  "YɟDISCađIǋNTaAVOCADOaCUCUɪȆĎaPOTúaćROTȆGUETǖĄADacɑNÍLaǂLɩƛȱĻDbTUFFěFŬĄADaEGGa˭ȱŽKaƞNUTSaKIWIFRUI",
  "TaƛCAKĮDUMPɧaļTUƂCƗIEaǓEƚȬaċPǎCKSȇWL#SPƘaCUP#ǐAWbOĎUTaBROCCƐaPIEbRETZELaCUTȱMĚaƾDWICHaĆNěĻDaLEAF",
  "Y ɑNaŴGObƘ¬KEȆGELaҰդ)Ђ˲SaYAWNśϐҰ˦Tęο#ɶY ə)ɶY´TfUNɋ ĵS)WAVYϘaɳHĚEDϐfFREEZɠNINJAaDISGUISěķEο·L˝BßÓ",
  "ARSe#ƦA˝ĵSaSARIaLAB¯ATaGOGGLĮHIɤªOTaFŬÎOEaCRABaLŜϐSďPŜaǫKEYaUNIďNϐEAGŮDǮȆTaǂRKaOWLaFOXϐBUTǙFLYaD",
  "EĪŀŕAaLIZòaRHINOCĩSaSHRIMPbƬDaGIRAFFEϐfZEăaHEDGEHOGaSAUROPODaT-REXaCRICťaKîAROOaűMAaƞCƋaHIPPOPOT",
  "AMǹƝROTaƭCƘaLOBǍRȉSƬTObIđBEȆDGĪSWANaMAMMOTHaDODOaSLOTHaOTǙbƱGUǔaSKUNKaFũśOaOYǍRacBEAVbISƖSEALaGU",
  "œ DOGaƨBɟĆEaEMOJI¯MPƔNTËD´IRqfɈYqBALDq~´IRȇNEaLEGaĻTaTOOTHaSUơŋOfVŕâbAFETY Vĭaę#HęɟAIDȉǤIZěλĈIRb",
  "lANUALbEĈNɝ©MlLEGaĉEƿWEDGEbUPCAKEaƽTȴKĪBEǻáȬaĽůaONŜaFåFELaWAFFŮBUTǙaŶE DƷKaŒ CUBEaBUBBŭTEAaǨLLaǌ",
  "N˝ɸƖkKNEELahDEAFο#ſOCŮADULTaĊLDaƏħADULTaBęDěɸƖɸON#ɔSćFg¸ÐEAMYÌOMhCLIMĂGhŘLOTǷPOϼaMáaFãYaVAMPIREa",
  "żɸƖELFaGENIEacZOMBaăINaOƱGE ˲aBŕěCAPaSćFaGLOVĮCOATaSƋSaRěGIFT EћaĹECƭKĪJIGSAW PUZZŭPIECEaTĭ TUBE",
  "aPEǧ²SHaDNA +µLIXačPASSaABACǹĹE EXʆUŞĪTOOLBOXaBRICKaMAGNıLUGGábOʇªTTŮSPOOLȱTHƲDaɂȱYARNaSAFETY Ƥa",
  "ǗDY BęaBROOMbASťaRƑȱƜĪĀȱSOAPaSPƕEaƳEIPTaNAZðAMULETbĳƯԋoΞoRƗoˍPoϯoPAWNa~սļTY-ɍ±ɑSaz>Тϯ RazїТϯ Rai",
  "~ԋ ҮɭTYixΞixRƗixˍPixϯixPAWNax>ԋixΞixRƗixˍPixϯixPAWNaxїԋoxΞoxRƗoxˍPoxϯoxPAWNai~սԛ Ё-ɍaz>սɰHUazїսɰ",
  "HUa~ТѱɤpΞpRƗpˍPpϯpPAWNa>ТѱɤpΞpRƗpˍPpϯpPAWNaїТѱɤvΞvRƗvˍPvϯvPAWNa~սʋё Ѳɍ±ɑSaz>սʋHUazїսʋHUai~ԋԎO ё ",
  "ΥTYizΞԴRƗԴˍPԴϯԴPAWNԎaz>ԋԴΞԴRƗԴˍPԴϯԴPAWNԎazїԋԎozΞԎozRƗԎozˍPԎozϯԎozPAWNԎai~սЂё FIFTEENaz>սTHREazїս",
  "THREa~ТĦIHƙĪr>arїa~ТĦIHƙħҮɭTY±ɑSaz>ТĦIHƙazїТĦIHƙa~Тϯ-ΞpRƗpˍPa>Тϯ-ΞpRƗpˍP¡12aXŐGQIËD GENEƯmŴDAƷmĠ",
  "ƢNTmHORSEmĈRŝnANNONmSƏIERi> GENEƯkŴDAƷkĠƢNTkHORSEkĈRŝlANNONkSƏIER¡2aɂETÎOĮƔ-PIECE SWIMSUITaBRIEF",
  "SaΧSaǝƃƾĒ¡3aDROPȱBLOODaADHESš BìáaǍǝSCOPEaX-RAYaCRUTCH¡3aYO-YOaKITEacɵCHUȇOżîaMAGőWìaƤ÷aNĭɟDƑS¡9",
  "aɻěƥNıĈIRaRAZORaAXEaDIYA»MPȆNJOaŽŠRYµLMıACďDŜa˿DRUMaCƍbARƠTRYÍWaSĐWDRšRacLADDaɘaMIRRORaWřOWaPLǲĪ",
  "SEWɟNEEDŮKƇaBǮıMOUƿǥPaTOOTHBRǸaɔSʉaƥćDaRƋaMIRROR ɂaœNTIFICϠćDaɩBATǙYaŃSA¡3aFLYaWORMaBEETŮCƋROACH",
  "aPOTǗÈïaWOODaFĚŋaLOTǹďALaEMPTY NĭaNĭ#EGGS¡5aëTƒą ˲aLǲSaPEOƦ HUGGśbREGNï¿NjɸONbERSON#đWN¡10aBLUEā",
  "RIESbġ PEPơaƐVEaFŬĄADaTéŮĺDUEaTEAPOTaPOUɻ½ƬDaBEANSaJAR¡6aMELʆϐjƽUο#ΘĵS)ɓ ɳϘfƟɤ ĵfӍMƚHaϦ ɦϐBIʆ½Pb",
  "UBBLES¡8aɓ#řEXЩ)Ѓ˗Ĝ': ɓag(afPALM ^ffǶϬΜɟöǛ VIEǾa˲ ɓS¡9aBLƋ SEXǔT-1o2o12o3o13o23oc1ȝ14o24oc1o34oc",
  "1oc2od1o5o15o25oc1o35oc2od1o45oc1oc2od1oc3od1od2oe1o6o16o26oc1o36oc1oc2od1o46oc1pc2oc3od1od2oe1o",
  "56oc1oc2od1oc3od1od2oe1oc4od1od2oe1od3oe1oe2aϲ(ύ ӍϲԦϤzǾ Ԧ'xЉԦϤzɷԦ'zɷ(Ӂ Ϥgj'ύ ӍЉ=(Õ×PzɷԔ 'xϲԔ ϤzǾ",
  " Ԕ 'zǾ (ÕϜ ϤzǾ Ԕ ='zfǾө¾WzmǾ (zfǾө×PzmǾ (zǾөϜ 'g(ύЦծϜ ='zmɷ(zfơө¾Wzmɷ(zơө єzɷԦ='aЉ'ύ ӍϲԦϤzǾ Ԧ'xЉ",
  "ԦϤzɷԦ'zɷ(Ӂ Ϥgj(ύ ӍЉ=(Õ×PzɷԔ 'xϲԔ ϤzǾ Ԕ 'zǾ (ÕϜ ϤzǾ Ԕ ='zfǾө¾WzmǾ (zfǾө×PzmǾ (zǾөϜ 'g'ύЦծϜ ='zmɷ(",
  "zfơө¾Wzmɷ(zơө єzɷԦ='f)')ϲЅβЂѤSύaz()ŲER)' ЅazǵER)()ϲЅaz()ǵER)' Ѕbg ЅβɰѤazЉǧȊȵazϲǧa<Ȳ |Hύ-2p3p4p5p",
  "6p7a[Ȳ |Hύ-2p3p4p5p6p7a()ϲɰ|Hύcpǵat'cpŲatǵĪ[Ȳ |Hύ-1358aЉɰѤύggЂ|HSglFIVghЂѤghΥ |Hag'Ȳ ѤcgЂ|HSclFI",
  "VchЂѤchΥ |HaйϴȴDEas'asǵĪuŲanINǻǁuЉɒύ)ϲɒ lINǻƿϴȴDE)ϲɒύ¡1alйINǻƿϴȴDE)'a˒ħˎʜasINǻƿafϩ[afЉ(Ӂ 'gf'Ӂ (",
  "f)ϲЅβɒύaw()'aЉ( ЅβϴȴDEgy'azϲgy(ȇX ĘWśSϗЦծ =(zծ ='ʖԦϤzqä='zqծ =(zqծ ='ʖԦϤÕ ='zpä=(Õ×Pzծ =()='Ӂ Ϥz",
  "qծ =')=(zծ ='Ӂө =(zծ ԦϤÕ ='ʖԔө ='Ӂ Ϥzqä='ÕϜө =(ʖыt[ӄaARƻɔ-ѫΜĪINǻƿ˒]aйRUNNɟŴar'Ȉǻƿ^:*#ǡ (:ʑ)ǵER)ϲ",
  "ɰ|HύȊ:*an^:*)'arǶйFƏĪm'aVOœD ˰ώa'ʣеDȭaӔӍ˗s='Ӂ Ϥsыa~ϒÍLTIRE#ΠEDФSȄǜRD ~ 'ҽϓay=ay' aӔϾD әaǎCK FIGU",
  "REm#ARMS Ϲm¼ANɟ(v'm#DƵSa~×ӳĉVƺ¡37aSEGɬěքl|lɭ¡787463aŪGUáÒG¡30aTAG ΫeԨegQUOTeњ&edDƑAecơɄeAҩfӖe(Ԥe",
  "m'eҜeΛ&e˖eϫ-žUSeӏeΪUSeʻfƔfǬgɚfɏgšfǉgɋf|fɭe˕efɽeӒ &ecˤSecԬeәečżCɛATeҦAmBmCmDȚFmGmHmImJmKmLmMmNmOm",
  "PmQmRmSmTmUmVmWmXmYmZe(ՊeԱDUSe'ՊeգeɩɦeԘTeҧAmBmCmDȚFmGmHmImJmKmLmMmNmOmPmQmRmSmTmUmVmWmXmYmZe(Ճe<",
  " ɦe'ՃeίaĆCELÒG¡128aζʇ Sь-17u8u9t20u1u2u3u4u5u6u7u8u9t30u1u2u3u4u5u6u7u8u9t40u1u2u3u4u5u6u7u8u9t5",
  "0u1u2u3u4u5u6u7u8u9t60u1u2u3u4u5u6u7u8u9t70u1u2u3u4u5u6u7u8u9t80u1u2u3u4u5u6u7u8u9t90u1u2u3u4u5u",
  "6u7u8u9t10ո1ո2ո3ո4ո5ո6ո7ո8ո90v1v2v3v4v5v6v7v8v9t20ո1ո2ո3ո4ո50v1v2v3v4v5v6"]

end RepoAtlas.CharName
