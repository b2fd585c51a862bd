/-!
# Names of characters: syllabaries

Canadian syllabics, runes, Khmer, Mongolian and further letters. The layout is that of
`CharName.tables`.
-/

namespace RepoAtlas.CharName

def syllabaries : List String := [
  "aĆADɜSYűBICS ϫtEtAAItIuItOuOtcYϟӦˢItAuAtWEvSTϟWEuIuĭϟWIuIIucĭϟWuOuĭϟWOuOOucĭϟWteіtWþSTϟWAuAAucĭϟ",
  "WteіtAItYϟWtԫtϨʼz˯zϢʡʤzkǣzk'zez+ ʼz+ Ϻ<жSz=ėzϺ[жzPLUSz^ʥtENtINtONtANtPEuAAIuIvIuOvOtdYϟӦHˢHItPյP",
  "WIՀPWIIՁPWOՀPWOOՁPՓPՒtkYtPtӢ PӦHtTEuAAIuIvIuOvOtdYϟӦDˢDItTյTWIՀTWIIՁǬՀǬOՁTՓTՒtfіtTuTEvIvOvAtKEuA",
  "AIuIvIuOvOtdYϟtKյKWIՀKWIIՁKWOՀKWOOՁKՓKՒtfіtKuWtǊTH-SLûYºHzSLûY KIHzSLûY KOHzSLûY¹HtCEuAAIuIvIuOv",
  "OtdYϟtCյCWIՀCWIIՁCWOՀCWOOՁCՓCՒtfіtCtSAYISIÔtMEuAAIuIvIuOvOtdYϟtMյMWIՀMWIIՁMWOՀMWOOՁMՓMՒtfіtMtӢ M",
  "tMHtȿPASĆ MtcSAYISItNEuAAIuIvIuOvOtdYϟtNյNՓNՒtfіtNӦNGtNHtLEuAAIuIvIuOvOtdYϟtLյLWIՀLWIIՁLWOՀLWOOՁ",
  "LՓLՒtLtӢ LtcŹŏtSEuAAIuIvIuOvOtdYϟtSյSWIՀSWIIՁSWOՀSWOOՁSՓSՒtfіtStȿPASĆ StSWt>ĻT StMOOSEϟSKtі SKWz",
  "I S-WzI SPWAzcIÐzcI SKzcI SCtǃvIwIvOwOvAwAvWEՁSHWIՁSHWIItfӢ tSHWOՁSHWOOtfӢ tSHWAՁSHWAAtfӢ tSHtYE",
  "uAAIuIvIuOvOucϟYuյYWIՀYWIIՁYWOՀYWOOՁYՓYՒtfіtYtBIBLEϟYthWĭtSAYISI YItREuϟREtӢ¼tRAAIuIvIuOvOtӢ¾tRA",
  "vAtӢ»tRՒtRtӢ RtcŹŏtFEuAAIuIvIuOvOuAvAucWՁFtǛtdNϟtǜtdNϟtǜIteNϟtǝwOvAwAvcWtfӢ tTHuǛwIwOwAvHuYEvIvO",
  "vAtƈAVIKµzK¶zK¶IzK·zK·OzK´zK´AzK HycUTtHKtQAAIuIvIuOvOuAvAtQtTLHEwIwOwAtӢËzREE RIzREEÌzREEÊtƄAIv",
  "IwIvOwOvAwAuGuNGtSAYISIÎEzÎIzÎOzȴtWOODSϟǛzщIzщOzщAzщtLHIwIvOwOvAwAuHtTHϟǛzEÔIzEÔIIzEÔOzEÔOOzEÔAz",
  "EÔAAzEÔtAIVILIK Bt>ĻT EzIzOzAzWEzWIzWOzWAȩzNIzNOzNAzKEzKIzKOzKAtSAYISIµz¶z·z´ӦGHʎGHɴľȪľɌGHɡGHɁRʎ",
  "RɴRɌRˢRɡRɁWʎWɴWɌWˢWɡWɁHWʎHWɴHWɌHWˢHWɡHWɁTHʎǝȪǛȪǛɌǜȪǚȪTTʎTTɴTTɌTTˢTTɡǪȪPʎPɴPɌPˢPɡPɁPȪGʎGɴGɌGˢGɡGɁ",
  "KHʎKHɴKHɌKHˢKHɡŦȪKKʎKKɴKKɌKKˢKKɡKKɁKKȪNʎNɴNɌNˢNɡNɁMʎMɴMɌMˢMɡMɁYʎYɴYɌYˢYɡYɁJUtdSAYISIӦJɴJɌJˢJItdS",
  "AYISIӦJɁJJʎJJɴJJɌJJˢJJɡJJɁLʎLɴLɌLˢLɡLɁDLʎDLɴDLɌDLˢDLɡDLɁLHʎLHɴLHɌLHˢLHɡLHɁTLHʎTLHɴTLHɌTLHˢTLHɡTL",
  "HɁTLʎTLɴTLɌTLˢTLɡTLɁZʎZɴZɌZˢZɡZɁZzcRϔALȪDZʎDZɴDZɌDZˢDZɡDZɁSʎSɴSɌSˢSɡSɁǆȪǅȪǃȪǃɌǄȪǂȪSHȪTSʎTSɴTSɌTS",
  "ˢTSɡǩȪCHʎċȪĉȪĉɌĊȪĈȪTTSʎTTSɴTTSɌTTSˢTTSɡTǩuHI &tӏtQAItcNGuNGIxIwOxOwAxAtWOODS-щWĞщWIzщWIIzщWOzщWO",
  "OzщWAzщWAAzĐEϑÔt>ĻT WaOGŃ Ϋ]f!BEITHgLUISgFęNgSAILgNŜgUùgDãgTINNEgCƑhEIRTgMUINgŀTgNGEAĒgǐAIFgRUIS",
  "gAILMgONNgURgEADHADHgfIOgeEABgORgUŕEANNgIĸgEAMńċLLgPEITHf FĚŋ]giӛ¡3aRUNIC!FEHU FEOH FE FgVgURUZ ",
  "UR UgYRgYgWgTHUƸAZÔURS TəgİgANSUZ AgOS OgAC AhESCgɨ-ăNCH-OSS OggΧ-TWIGgOhEhNgƮDOÊDËID RgKAUNAgCE",
  "NgKAUN KgGgĤgGEBO GYFU GhARgWUNJO WYNN WȏGLAZ HicEGLgdɨ-ăNCH-HAGALgjΧ-TWIGgNAUDIZ NYDÃUD NggΧ-TW",
  "IG-gϦ-NgISAZ IS ISS IgEgJEƱ JgGERgɨ-ăNCH-ðAEgΧ-TWIG-ðAgIWAZ EOHgơǝ PEORTH PgALGIZ EOLHXgSOWILO S",
  "hcIGEL ɨ-ăNCH-SOLhgHORT-TWIGgCgZgTIWAZ TIR TYR TgfΧ-TWIG-gDgāKëN BEORC BJARKêBgjΧ-TWIG-gϦ-PgcɱgE",
  "HWAZ EH EgŴNAZ¿N Mgcɨ-ăNCH-MADRghΧ-TWIGgLAUKAZ»GU¾GR LgϦ-LgśWAZiGgDAGAZ°EG DgOǚŪ İEL OgęgIORgCWE",
  "ORTHhALChdEgǌNgɨ-ăNCH-YRgdΧ-TWIGgdŒŪDICgQgXfд ӘONgoϵgm˗gARLAUG;gTVŖDUR;gcBELGǝf!KgSHgOOgFƱKS¬Sť ",
  "OSuISuEHuACvESC¡7aTAGALOG!AiIiUiKAiGAicNiTAiDAiNAiPAiBAiMAiYAiRAȓiWAiS˃ӃIqUiҖkPAMUDPOD¡9h!қRAańU",
  "NOO!AiIiUiKAiGAicNiTAiDAiNAiPAiBAiMAiYAiRAȓiWAiS˃ӃIqUi&ÇMUDPODaƣLIPƤEд ӘONlm+¡9aBUHID!AgIgUgKAgG",
  "AgcNgTAgDAgNAgPAgBAgMAgYAgRAgLAgWAgSˁӃIoU¡12aTAGBANWA!AjIjUjKAjGAjcNjTAjDAjNAjPAjBAjMAjYA¡1ȖjWAj",
  "SA¡1iӃIrU¡12aKHż!KAȐhOhHOgNGOgCAȐhOhHOgNYOgDAgTǚgDOgTǝgNNOgTAȐhOhHOgNOgBAgƢhOhHOgMOgYOgROgLOgVOg",
  "ǂhSOhAȏgLAgQAf¸DEƠDĥϝ QAQzAAzIzIIzUzUKzUUzUUVyRYzYYyLYzYYyQEzAIzOO TYPEȲzOO TYPEȶzAUgЌINŋĥ AQwAm",
  "d&oIpIoYpYoUpUpAoOEoYAoIEoEoAEpIoOOoAUg& NIKAHITiƲHMUKiYUUKæAƤTUiMUUSIKúANiǧISAPiBïOCiROBATicTOì",
  "AKHIicKAKABiAHSDAiSAMYOKÍNƉiVIRIAMiCOĤiBȿMASATiŦNicĀIYOOSiCAMNUC PII KUUHiLEKÕOiBEYYALiPHNAEKÂAN",
  "iKOOMUUTgCδCY; RIELg& AVAKRAHAƾYAjTǚĆ¡2gʻhƔhǬiɚhɏišhǉiɋh|hɭ¡6f;¼K AǪK SONrMUOYrPIIrBEIsUONrPưv-M",
  "UOYwPIIwBEIxUON¡6ȉNGƐêBIRGAkġIƩSk˖kӏk˕kӎkTODO SOFT ϫkSIBE ӜBɲARY]ERkŴCHU ˖rӏkNIRUGUkFREE ζʇ SьȲz",
  "SьȶzSь ήkVOWELӯkFREE ζʇ Sь ɏkքl|lɭ¡6j!AȘIkOkUkOEkUEkEEkNAkîkBAkPAkQAkGAkMAkLAkSˇTAkDAkĈkJAkYAkRA",
  "kWAkFAkKˇǩkZAkHAAkZRAkLňZHIkcCkTODO ˿Ќ&pEpIpOpUpOEpUEpîpBApPApQApGApMApTApDApĈpJApǩpYApWApKApGAA",
  "pcHpJIApcNpDZAkSIBE EpIqYpUEpUpîpKApGApHApPApǂpTApDApJApFApGAApcHpǩpZApRAApĈpcZkŴCHU IrKArRArFAr",
  "ZňĈӅ¡7kç Gç ҚȲtfVISARGtDéRUtUÿéthӑtBALǯtgЂtAtItKAtƄtCAtǪvHAtētƆtTAtDAtPAuHAtǋtZHAuAtAHkTODO§I Gç",
  "ÒyZňcŴCHU§I Gç Gz Ƅz¬z JHAz Ǫz DDHAzÒz DHAz ǋz CYAz ZHAz ZAkç Gçʡ UyYAkŴCHU§I Gç Bňç Gç°GALGAkŴC",
  "HU§I Gç LHA¡5aĆADɜSYűBICS OYtAYuAYtcWtPOYuAYuWOYtTAYtcKucWtcMtNOYuAYtcLtSOYuAYuHOYvAYvWOYtcYuAYt",
  "cRtNWItdOJIBǽ tNWIIteOJIBǽ tNWOtdOJIBǽ tNWOOteOJIBǽ tRWEEvIwIvOwOvAtOJIBǽ PzY TzY KzY CzY MzY Nz",
  "Y SzYÎtEõERN WthWEtϨ%ʤzϹȭtRϟRWEtӢ¾OzREE»AtTHWEwAuTHWEwOOwAAuLHWEwOOtSAYISIÎWEzÎOOzd ӦGWʎDEƂGˢGAɁ",
  "GWAtSAYISI JUUӦJWAtBEûR±ƂLz±ƂRӦDĥäS¡10aLIMBUϝ-ćRIħϰf!K˂G˂ƄgC˂J˂ȀgT˂D˂NAgP˂B˂MAgYAgRAgLAgWAgǂhSAh",
  "AȏgGȀgǥ¡1fӃAoIoUoĝAIoOOoAUoEoOgǑ˹D!YAqRAqWA¡4ȎKAiƄiҚiTAiNAiPAiMAiRAȓg&ÂKPHRĤigKEMiSA-I¡4iLOO¡3gԨ",
  "gfƫSgʻhƔhǬiɚhɏišhǉiɋh|hɭaTAI¼!KAhXAhƄhǩhchYAhT˃LAhP˃MAhFAhVAȐhQAhŦhcTShNAhAhIhEEiHhUhOOhOhUEhEhA",
  "UEiI¡2hʉ-2m3m4m5m6¡11aNEWÒI LUE!˵QAmdŲm˵KArXArƄmɩKAqXAqƄm˵ǩrcrYAmɩǩqcqYAm˵TˋNAmɩTArHAqNAm˵PˋMAmɩ",
  "PArHAqMAm˵FArVArLAmɩFAqVAqLAm˵HArDArBAmɩHAqDAqBAm˵KVArcXmcɩKqcXm˵SUAmeŲ¡4lӃЌΧENERuAAuIIuUvUuEuAE",
  "uOvAuUEuAYvAYuUYuOYvAYuUEYuIYl!ϨVsNGsNsMsKsDsBlʧ]-1s2¡6mʻnƔnǬoɚnɏošnǉoɋn|nɭmcǚM ?O¡3m&»ErVaKHż;Ç",
  "ǚMASAThMUOY KOEThfPIIhgBEifUONhfPưlf-MUOYmfPIImgBEnfUONhfDAPkf-MUOYlfPIIlgBEmfUONlfPưhTUTEYASATh",
  "MUOYÌChePIIhfBEieUONhePưle-MUOYmePIImfBEneUONheDAPke-MUOYlePIIlfBEmeUONlePưaBUGŚSE!KAjGAjcNlKAjP",
  "AjBAjMAkPAjTAjDAjNAkRAjCAjJAjƉlCAjYAȗȖjVAjSAj˅ӃIrUrErOrAE¡2jPèAWAjϧ ѪaTAIÔAM!˵KApHApXAjɩKAoXAoŇƄ",
  "j˵CApŇɩCAnSAnĈjƉȗTAj˵RȿjDAjɩRȿȗNAj˵TApŇɩTAoŇNAjBAj˵PˊFAjɩPAnFAnƢjMAjɩYAjdɗȗkUEȖkUEjWAj˵ǂpSApAoŇű",
  "jAjɩŇIkIjUkUjEEjOOȖEjGƲTÍi ԖаÊʖLAvLAÒƃLAIjh&¿I KjԖϑ ƄvɩPAvg˵RȿȳvMAvBAvSA¡1j&ÍKOTjӡrųÍTrAArcTè rI",
  "sIrUEsUErUsUrOsA@sYrErAErOOrAIrcǚM rOA,j&¿I¹NGlʉ-1q2lKHUĢʉ-3w4w5lRA´AMlcų SlKHUEN-LUE¹Ʊ¡2jӶCRYPT",
  "ΖMőėjHORAϋpѝqɚpɏqšpǉqɋp|pɭ¡6jǚMϋpѝqɚpɏqšpǉqɋp|pɭ¡6j&ÙîqWAAKlSAWANlKEOWlHOYlDOKųlӛҮƱAlų YAMOKlKAA",
  "NpKUUlSATKAANsKUUșNGldCA¡2aӶ+D գkӌ-ɻkINĸITYk^:*kІȭkX-X@kWIGGLY ɦ@kɱ]@kg+ kϱɄƯIZϠϿ@kxǐƕkӕES,km+ k",
  "ӕES@v ϸYkҧW@scѱk(Ԥ, (k'Ԥ, 'k(Ԥ@ (k'Ԥ@ 'kϾҐS,kњ&,kӑ+©CH,kΛ&,kh+ s@kІ ʼПkҧIљGz Rz T¡49Ȇɦƿ& ULU RŒM",
  "pϣlCECEKlSUƱGlBISAHi!AKñoзjIKñoзjUKñoзȗËPAqзȖ¼ƄrзjEKñjeAIjeOoзjKAl¿HAPƱAjGAl ŀAjƄjCAl»CAjJAl JER",
  "AjƉjTA»TIKmMURDA¿HAPƱAjgDAÂRDA§PsgMAHjNAÊŸTjTAlÒWAjDAl¿DUjNAjPAl¹PALjBAlºŸNGjMAjYAȗȖjWAjSAÍGAoPA",
  "k˅¥RĨKANjЌ&зrULUuÍRIrSUKUv ILUTrRAËPAyзrLA¼ƄzзrcTçxËPAyǗǲygREPA rPEPETwзjàG àGi!ŢÍSAKkgHOTjgTZIR",
  "jgEFjgVEjgZALjgASYURAkRĈőJƉ¡3iϋkփk|kɭjƛTIlMADAjWřUjćIKÇMǲKAHpSIKIpƝĨNjPAŻĤjcMUSɝ; DOtcEtcUtcAwÑƱ",
  "GtcItcAEtcEUtcAIuƃGEDEsӶTEGEHzƃģEPzƃKEMPULzƃKEMPLIzƃJEGOGANzhƃKEMPUL#ziƃKEMPLIzƃBģEzƃĿGs'-ɓʣ DUG",
  "zΘDAGzшTUKzшǓs(-ɓʣÇNGzcΘPUzшƥKzшPLUKzΘƤGjcƛTI»NTAliMADA¡1aSUNDíƿ&ÇNYECEKpGLüRqWISADj!AkIkUkAEkOk",
  "ElUkKAkQAkGAkcNkCAkJAkZAkƉkTAkDAkNAkPAkFAkVAkBAkMAkYAkRAkLAkWAkSAkXˆ ԖÇžGKALyƉKRAzYIKUkҵƛGHULUvY",
  "UKUvAELAĤvcOLOuMEPETuNEULEǲk&ÇMAAEHmЊkcԖÇƾGêzîêWAj!ŦkSYAj քl|lɭkAεŇ!REUkcLkBňϨKqMȆǓ!AgԞAȏgcԞgdŴD",
  "AIɧgBAgcKARO gPAgcԞgNAgcŴDAIɧ gWAgcԞgdPAKPAKgGAgcԞgJAgDAgRAgcԞgMAgcԞhƚŋNÒgiNORgSAhŖLǲUNÍgdŴDAIɧg",
  "YAgcԞgƄgLAgcԞgƉgCAgNDAgŸgIgUf¥TOMPIgҵEoPAKPAK EoĝIoKARO IoOoKARO OoUpʝԞSAgԖ NGsHgƛGOŬjƕONAN¡8f; ",
  "ĂDUÃÀTEKnƤARBORASnJUDULnƛGOŬaLEPĈ!KAiL˃GAȓhƄhC˃JAhƉhT˃DAhNAhPAiL˃FAȓhBAȓhMAȓhǩȕhDZAhYAhRAhLAȐȓhV",
  "AhS˃WAhAgÑB˹D!YArRAhӡApIpOqOpUqUpEhԖ KtMtLtNtPtRtTtƊN-DOtKîh&ÊNjNUKTA¡3hԯTA-ROLtgNYETÔYOOM tCER-",
  "WAtgTSɘ yKhʻiƔiǬjɚiɏjšiǉjɋi|iɭ¡3g!ǪȕhēaOL®IKIϋkփk|kɭi!LýTkGkNGkLȖýAKlJlMlWjLIjISkHkNYkRjLUjUCkDk",
  "NNkYjLEjEPkDDkNkRRjLOjOTTkBkVkHiÂ TTUēGjcGAAHLAA TTUējqMU-jRELAAjcƢARKjAHADjcԯMUCAvg+ aCYѧ%!ΠěVE",
  "lɨ-LEGGěDElNARƻ OlWœ ESlTèÓmdɚ-LEGGEDmè´RD &qYATlUNBLģěUK¡7aGEORGɜMTAVRULI£ANucBucGuDONuENuVINuZ",
  "ENuǔuINuKANuLASuŴuNARuONuƝucZHuRAEuƾuTARuUNuƢRudKuGńuQARuɾudCvANuJILucCvŅuXANucJHuHAEvEvIEuWEuŅv",
  "OEuFIuYNuELIFIuѱGANuâ¡2vENuŅD &ucLABŏaSUNDíƿԯĂDUÑRYAzDUÇNGɨzDU PURNézDU¬KRAzDU¼UÍǔGAziDU¹zjDU Dz",
  "jDU B¡8aVˡʉ¹RǂNAlǂRAlƧNŦg& NIHSHVASAiYAJURVˡMIDɦ SǺŠgiʉ YAJURVˡAGŁVøD¸DEƠDĥwtwtKȿKA lϣ@lYAJURVˡK",
  "ȿKA¸DEƠDĥ SǺŠ SCHROEĕl+ SǺŠliІlcKȿKA¨ǯTlɉlҲ@mgɚlRIGVˡŤHMIRI¸DEƠDĥ SǺŠluȿRVûDICgi& ѷqcǯTioӛigѷ¨iq",
  "ӛiѷ ǯǪʰqlANiҚ¨TARGOMUŦriBAHIrhVézŦʰiTIRYAKiHEXIɎ ˿ҚininRǚƃiҚ UBHüTOÂŦjRDHAѷimҮgʉ ϣ,g& JIHVрidUPA",
  "DHŴiATIKưAgʉʤ,lȌg& + Қ¨TARGOMUŦ¡5aŬINʩAlEfd %!ʊEDfʩтBkCkDkİkEfc %!ѱɱpIfʩJkKkLиkMkӛNkOlƠ Ofc %!үs",
  "Ơ OsиҷOEfʩOUʒǣʡ OihϢfʩPkӛRkeʊkTkUfc %!үrĖĨSIZěUrѱMfʩVkWkZkEZHgθD»RYNGEäSPIƱTgâa˰ʩ˪k˻kPIkƶkƩaCYRŕ",
  "ICʩELԆ$ AmElBmARRěBlDlElӛElGlHlIlJlKlLlMlNlӛNlOmUlPlRlTlUlWȔAlѱAlʾlѱAElBlDlElSCHWAlΘElgѱlGlѱIlKl",
  "MlĤlOmƠ OlcǣʡlhϢlPlTlUlү UlѱMlVlâlɃl˰ ˪l˜l˰ ƣlcCaŬŘǑѩ%!IsRsUsVa˰ÑBѩ%!Ƀs˪sƶsƣscCaҧUEiB#=ίihDihFih",
  "MihNihPihRkgFŞɘ)igS#ihTihZҷGԆCYѧENaҧIљGiTH#ǐIťHROUGHh£Iиhh!ŝAihPhh£Uhh!ѵiB#PоɘinDinFinGinKinLinM",
  "inNinPinRinSinīinVinXinZifA#ӚjpLƢiDʭ)ʃiEՋiqΘivӛipSCHWAipIipΘOipīipUipEZHԆ% ѱʾlCm#ɈlİlӛΘElFlҟJиlѩ",
  "GlѱHlIиmOTAl$ IoиlJ#˗ED-ʃlLՋnfPåTALl$ LlMʭlѱM#˿LEGlN#( ɘnfӚl$ NlтOlƣlSʭlīlT#PоɘlUȫmƩLONl$ UlVʭlѱ",
  "VlZmՋnɈlEZHlέaӶϦ ԘTriACUTkSNAKE@lUSƠɿ]kϳ-ʼk˯-ϳkϳ-˯kʼ-ϳk˯-ʼ-˯kʼ-˯-ʼkҧR@kˏ-ϳkϳ-ˏk+ ɅUMFLEX,kΕK,kZI",
  "GZAG@kIS@kUR,lS,kҧFŬǘěΘA,sAEtOtVsC хsIљDsİsGpʩGp %!KsLpʩLuMp %!NpʩNuRp %!RÌTUNDAsSs˿SsZsʾsBtįsSC",
  "HWAsFsLÚ=ίsO#ϱɄƯIZϠϿsPsīsU#ϱɄƯIZϠϿsWsAӰskOskUkѴ,kKAVYKA, 's(kdėkWœ ӑBRIDGE@kɉ (lĠʇ]k+ ӑˏ@kALƀTҺ@",
  "k(ʳ,k'ʳ)^ʳ@aҦA#ɻ@ЏBԑBԒB#ԚC#хкqȺDԑDԒD#ԚDՅDԐ@goȺE#ϳ)˯gpȺE#ϳкpȺEԐ@goȺE#ί@АE#х)ˏgqȺFԑG#ϳАHԑHԒHӰВHՅH#",
  "ˏ@gjʱI#ǠDАIӰкs%gf$!K#ЏKԒK#ԚLԒLȷ@)ϳgoȺL#ԚLԐ@goȺMԥMԑMԒNԑNԒN#ԚNԐ@goȺO#ίкoȺO#ί)ӌgsȺO#ϳ)˯gpȺO#ϳкp%gf$",
  "!P#ЏPʬgh%gf$!RЎRԒRȷ@)ϳgoȺR#ԚSԑSԒS#ʼ)ė,gn%gf$!S#ˑgn%gf$!Sȷ@gm%ge$!T#ЎTԒT#ԚTԐ@goȺUӰ@ГU#ί@АUԐ@goȺU#",
  "ίкoȺU#ϳ)ӌДV#ίЏVԒW#˯ЏWԥWӰВWԑWԒXԑXӰВYԑZԐГZԒZ#ɦ@gi%igHiTӰiW#ɻ,igYiA#'ʡʤi˿SʬqIAĿäϿphɗȍǂRP SȎ˜ȍAԒAʭ,Џ",
  "AԐкtȺAԐ)˯ДAԐ)ɘ,ДAԐ)ίДAԐ)ɉgsȺA#ˏкoȺA#ˏ)˯goȺA#ˏ)ɘ,goȺA#ˏ)ίgoȺA#ˏ)ɉgn%ge$!E#ЎEʭ,ЏE#ίЏEԐкtȺEԐ)˯ДEԐ)ɘ",
  ",ДEԐ)ίДEԐ)ɉgsȺIʭ,ЏIȷ@gh%gf$!OЎOʭ,ЏOԐкtȺOԐ)˯ДOԐ)ɘ,ДOԐ)ίДOԐ)ɉgsȺO#əкnȺO#ə)˯ГO#ə)ɘ,ГO#ə)ίГO#ə)ɉgm%g",
  "e$!U#ЎUʭ,ЏU#əкnȺU#ə)˯ГU#ə)ɘ,ГU#ə)ίГU#ə)ɉВY#˯ЏYԒYʭ,ЏY#ίЏΑE-WELSH LLgqȺΑE-WELSH VgpȺY#LOOPgh%a˰ %!",
  "ʾϞoԺǺogԺOXof˛oզom˛ȍʾϞoԺǺogԺOXof˛oզom˛ȎэϞqԻǺqgԻOXqf˛¡2ȍэϞqԻǺqgԻOXqf˛¡2ȎįϞm˛mcӗmg˛mcҭmf˛mզmm˛ȍįϞm˛",
  "mcӗmg˛mcҭmf˛mզmm˛ȎŝAϞn˛ncӗng˛ncҭnf˛nզnm˛ȍŝAϞn˛ncӗng˛ncҭnf˛nզnm˛ȎќϞqԻǺqgԻOXqf˛¡2ȍќϞqԻǺqgԻOXqf˛¡2Ȏ",
  "ѵϞqԻǺqgԻOXqf˛qզqm˛¡1ȍѵ#˛¡1v)ζ¡1wȋ¡1wԜȎΗϞoԺǺogԺOXof˛oզom˛ȍΗϞoԺǺogԺOXof˛oզom˛Ȏʾ#ζoȋicэ#ǺqȋjcTA#Ǻmȋ",
  "icŝA#Ǻnȋicќ#Ǻqȋicѵ#ǺqȋicΗ#Ǻoȋ¡2iʾϞ)YPOӹoo˛oqӗou˛oqҭot˛ooզoz˛)gk$!ʾϞ)ƨSop˛orӗov˛orҭou˛opզoz˛)Pgk%",
  "!įϞ)YPOmo˛mqӗmu˛mqҭmt˛moզmz˛)gk$!įϞ)ƨSmp˛mrӗmv˛mrҭmu˛mpզmz˛)Pgk%!ΗϞ)YPOoo˛oqӗou˛oqҭot˛ooզoz˛)gk$",
  "!ΗϞ)ƨSop˛orӗov˛orҭou˛opզoz˛)PȎʾ#VƭHYoϳoζ)YPOӹononOXIA)¡1oeơISPOz)YPOӹȍʾ#VƭHYoϳoζoȋoƨSӹgKOƺISgƨSӹ",
  "hSILIhEƸPOŻIglҝA)ge%!į#ζ)YPOGEɐmnmnOXIA)¡1meơISPOx)YPOӹȍэ#ζqȋjcTA#ǺmȋmƨSӹgӗIAmȋmԜȎŝA#VƭHYnϳnҝA)ζ",
  "xȋ¡2nԜnlҝA)ȍŝA#VƭHYnϳnζnȋ¡1gc˛)ǺmȋmԜȎѵ#VƭHYqϳqҝA)ζzc)OXiƶϞm˛iѵ#ԜqlҝA)ȍѵ#VƭHYqϳqζqȋicƶ#DASgcҝA)Ǻq",
  "ȋgcǺ¡2ȎΗ#ζ)YPOӹononOXIA)¡1oeơISPOz)YPOӹȍќ#ζqȋkcEGA#ǺoȋoƨSӹgOXIAgcDAS¡1"]

end RepoAtlas.CharName
