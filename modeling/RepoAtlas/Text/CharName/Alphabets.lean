/-!
# Names of characters: alphabets

Latin, Greek and Cyrillic letters, marks and digits. The layout is that of
`CharName.tables`.
-/

namespace RepoAtlas.CharName

def alphabets : List String := [
  "aΫaԨagQUOTaњ&adDƑAacơɄaAҩbӖa(Ԥam'aҜaΛ&a˖aϫ-žǹӏaΪǹʻbƔbǬcɚbɏcšbǉcɋb|bɭa˕afɽaӒ¦cˤSacԬaәačżCɛATaҦAiB",
  "iCiDiEiFiGiHiIiJiKiLiMiNiOiPiQiRiSiTiUiViWiXiYiZa(ՊaԱDǹ'ՊaգaɩɦaԘTaҧAiBiCiDiEiFiGiHiIiJiKiLiMiNiO",
  "iPiQiRiSiTiUiViWiXiYiZa(Ճa< ɦa'Ճaί¡33aNO-ĄAK ΫaӑԨaɄ¦cPɲacCδCYacYENaBRƎNȫaѪ¦ӌaCOPY'¦FEžŚ ORDINäř˷",
  "Ra(ӳ+όԍaƇ¦SOFT ϫaREGşĨD¦ϳaDEɑ¦cPLUS-žǹԳǬnɚaʼПaMIđ¦cPILđWa=ėaхaԳƔaMASCUɦ ORDINäř˷Ra'ӳ+όԍaVULĽ ԩ Ѥ",
  "uɒqЂѤSaӑәaҦA#˯kբίkӌkɻ,jEiC#хiE#˯kբӌiI#˯kբӌiİiN#ίiO#˯kբίkӌaՐ&aҦOиiU#˯kբӌiY#ʼiTəȎǂRP SiA#˯kբίkӌkɻ,",
  "jEiC#хiE#˯kբӌiI#˯kբӌiİiN#ίiO#˯kբίkӌaDIЋ¦ҧOиiU#˯kբӌiY#ʼiTəiYӰȍA#ϳАA#ˏЏA#ΕKАCԥCԐГCԑC#ˑgi%gȍDЏDиАE#",
  "ϳАE#ˏЏEԑE#ΕKАE#ˑЏGԐГG#ˏЏGԑGՅHԐГHиАI#ίЏI#ϳАI#ˏЏI#ΕKАIʬȎҟIg$ ӓIJВJԐГK#хgk%ȗȍLԥLՅL#ˑЏL#=ėЎLиАNԥNՅN#",
  "ˑgi%j ƧCEDěBY AӖȍĤgeȺO#ϳАO#ˏЏOÚʼgk%g$ ӓOEВRԥRՅR#ˑЏSԥSԐГSՅS#ˑЏTՅT#ˑЏTиАU#ίЏU#ϳАU#ˏЏU#ɻ,ЏUÚʼБU#ΕKА",
  "WԐgn%gl$!YГYӰiZԥZԑZ#ˑgi%i˿SiBиȍBʭkǣĀАʉÏXАΘOiCʭЎAFRIĆ DiDʭkǣĀgj%ҷ˜ȍӛEiSCHWAiΘEiFʭgh%gf$!GjȾȎHVȍŝA",
  "jиiKʭgh%iL#ĀjAMBDAиȍѱMiN#( ɘȎN#˿'¼GȍO#=ίkəЎOIЍPʭgh%f!YRf£ʉȶАīf!ӛī¾OPʒT#Pоɘge$!T#gh%ge$!T#Ӛ iU#əЎ",
  "ѵiVʭifYЎZиАEZHl ѦDgn%lʰf!Ǭиf£ʉ ɍgk%f!ӑԫиgWYNNgDĥäCůKgȓǙggALVEOūggӚf£DZ#ˑjh#%!gh%!DȍLJj#%!JȎLJȍNJ",
  "j#%!JȎNJȍA#ˑgi%gȍIgi%gȍOgi%gȍUgi%gd$!UӰ)MACДUӰкsȺUӰ)ˑgsȺUӰ)˯gs%ҷEȍAӰ)ϳgt%gh$!Aʬgo%gȍAE#БGиАG#ˑgi",
  "%gȍKЏO#ΕKАO#ΕK)ϳgq%gd$!EZH#CAgk%igJȍDZj#%!ZȎDZȍGԥHWãiWYNNiN#˯ЏA#ɻ,кo%gf$!AE#gj%gf$!Oи)gpȺAÚ˯gkʱA",
  "#ӑĄgrʱEÚŁgkʱE#ӑĄgrʱIÚŁgkʱI#ӑĄgrʱOÚŁgkʱO#ӑĄgrʱRÚŁgkʱR#ӑĄgrʱUÚŁgkʱU#ӑĄgrȺS#˖@gj%gh$!TАYOGHgfȺH#ˑЏN",
  "#˿'¼GȎD#ɈȍOUЍZʭЎAԑEՅOӰ)ϳgt%gh$!O#ίgpȺOԑOʬ)ϳgo%gȍY#gj%iL#ɈifNifTiҟJjBҒiiQPȍAиihCАL#ĀiT#ӍϿȎS#SWô ʃ",
  "ilZȍԫГBиiUȫҷViEиgj%gh$!JА% Qʭ ʃgl%!ȍRиgj%gh$!Ygj%ҷAiʾifѱiBʭiΘOiC#ɈiDʰkɘiӛEiSCHWAnʭiΘEigӛxʭiшӛΘEi",
  "ҟJиiGʭiѩGfc!% $ʒ˪iưS əҷHiHʭjfĤiIиjOTAfʩIʒL#=ίkBELTkӚ ɘjEZHҷMq#˿LEGiMʭieN#( kfӚfʩNʒтOfʩOEʒшΗiƣҷRq",
  "#˿LEGrɘiR#˿LEGkʃkFŞɘjjEǻSěRfʩRkӑRʒSʭiīiҟJи)ɘiSQUöӛīiī#ɈҷTjՋiUȫjƩLONiVʭҷVpWpYfc!% $ʒZՋkɈiEZHl#Ɉf!",
  "ԫgƢRYNGEäθD FRICAʈgӑԫgǐET˓CgBILABɛCůKg%¢BʒшΘEfʩGʭkHʒJ#˗ED-ʃҷKfʩLʒQʭf!ԫиgtӛʒDZҒjiEZHjZҒ#ɈiTSҒjiīj",
  "CҒ#ɈiFĤҒiiLSjiZf!BILABɛơCUSSšinDĥʒѱH#FŞɘz)ʃԆ% HmʭlJlRlѱRtʭl$ ӑRlWlYjPRŗjȌjѱ˖jAӖjӛ˖j'ʡʤjk(jԫjmӛj(",
  "ʳjf'jfUPjf^jգaˑԆ< ɦjϳjʼПjiŁVjɩ< ɦnϳnԘTniACUTjЅβ˕jqɒ jϤD 'ʡʤrk(jѴjf^jΛ&ježaˏaė,aɻ,aΕKa% ίa+ ʼПԆƶǞ",
  " ɘj˗ПȔ˪lLlSlXlӛԫjEXǥ-˵ʉȫjnjjMIDjjŲjmEXǥ-jYŘDEɶɟʉ]kqîjVOICśjUNASPIRøDj+ AӖjɩ^ʳnfUPnf(nf'nɻj=ԘTkm+",
  " miACUTjɩίjϹ ˕jBEGŘ˵ʉjkģjfBEGŘŲjjģjǃLFjfΘjɩ(*aӶԘTkiACUTkhɅUMFLEXkίkϳkɳɦkˏkė,lIAĨǈkɘ,kɻ,k+ ʼПkˑk<",
  " ɦ,kh+ mԘTkԕkӑˏkѱ˖,kgkgӛk˖, 'kԘT@kjACUTk(ʥ@kg'k(ό,kəkйɻ@kѴ@kg^kΛ&@kfžkPåTçZěɘ@kgӚkɉlIAĨǈ@kɻ@k˖@l",
  "EDŕAkΕKk< ɦ@kcBRIDGkӑ+©CH@kˑ@lIRCUMFLEXП@kˏ@kgӑkcǠDkϳ@kɩɦkȑkί ϸYkjϺǐOKkpɨkiϺΪUSkqɨk'ʡʤ@kӑBRIDGE@",
  "kcSQUARlEAGǰ@kX,k< ίk+ ɳɦk˯ʧ]khACUTk˰ ԜqKOƺISqҝAÕNOSqYPOӹkBRIDGE,kҠ@k+ < ɦ@kc(¨GLkƇ ί,kHOMOǛǞ,kA",
  "LƀTҺ,k( '*@kcǴkˮEME ˹Rk'ʳ,kйɻ,kFERŶAkX@k(ʳ@kg'q)UPʳ@lʡʤ,kė, 'kҜ@k+ʤ@kZIGZAG,k+ ˏ@qEmϳs@mίmӑˏmÛ@k",
  "ҧӉsCsDsHsMsRsTsVsXa˰£HįgfȺқSAMPIgo%gNUżä&gjϲȍPAMPHYLɜDI˪gt%¡2gYPOӹg% ӛLUΓΨ;iqėTiuӛgәȍYOT¡4gǢOSgf",
  "ҝA gf$!ʾ#gANOÓLEIAȍэ#ǢOSjgTAiiIO¡1igќ¡1iiUƩLigΗgf%!ŝA#ҝA)ȍʾiɃi˪i˜iэiZįididTHicIOi˺i˻iMUiNUiXIiќi",
  "PIiƶ¡1iΨiǕiѵiƣicCiƩiΗiŝA#ҝAikѵȎʾ#ǢOSigэjgTAiiIOifѵ#ҝA)iʾiɃi˪i˜iэiZįididTHicIOi˺i˻iMUiNUiXIiќiPIi",
  "ƶiϨΨifiǕiѵiƣicCiƩiΗiŝA#ҝAikѵiќ#ǢOSiiUƩLigΗg$¹I;gɃ;geTHgѵʭ;ofʼ)ogӌgƣ;hcgcKAf!қKƙAfo %f!ǎGMAfh %fc",
  "!DIGAMfi %f!KƙAfg %f!SAMPIfg %aCOPǞ£ǃIhf%hc$!Fhe%hc$!KHhfȻHORIhfȻGîIAhhȻǄMAhgȻDEIhe%a˰ ˺;gƶ;gLUΓ",
  "Ψ;f!YOTf¢έ;gLUΓэ;gpӛȍǅge%g$ LUΓΨ;h!ƾge%gƶи;g$ ӛLUΓΨ;iqėTiuӛaCYѧ$!IE#˯mOlDJElcGlUKƮNɜIElDZElBYELO",
  "RUSSŐ-UKƮNɜIlYIlJElcLlcNlTǃlKJElI#˯lϺUlDȃlAlBElVElľlDElIElȃmElIlϺIlKAlELmMmNlOlPElERmSlTElUlEFșl",
  "TSElĉlǂnĈșRD &lYERUlSOFT &lElYUmAj%!AlBElVElľlDElIElȃmElIlϺIlKAlELmMmNlOlPElERmSlTElUlEFșlTSElĉl",
  "ǂnĈșRD &lYERUlSOFT &lElYUmAlIE#˯mOlDJElcGlUKƮNɜIElDZElBYELORUSSŐ-UKƮNɜIlYIlJElcLlcNlTǃlKJElI#˯lϺ",
  "UlDȃj$!ΗjgȼYATjeȼIҫEjlȼŰTŭYUSjl%jk$!Iҫju%je$!BIGji%jh$!IҫjrȼKSIjeʲPjeȼFŠЗIZHIǩИIZHIǩÚԘTjxȼUKjdȼΠ",
  " ΗjmȼΗ#TITLOjmȼOTjdȼKƙAjg%jѰDS &bOMĂɟCYѧTITLOtPåTçZˀt˛ PNEUŶAtjƩLIuOKRYǟtёӀS &tdŽLŜbYѧ$!ϺIʰКɽSOF",
  "T &jlȼER#ǞKИľ#UPʊjlȼľиjlȼľ#=ɘjkȼȃʫģERjo%jl$!Zjn%jk$!KAКKAӄjm%jȍKA#jkȼBôKIR¹jlȼENʫģERjn%j$ ӓĢľjqȼ",
  "PE#=ɘЙABŦSɜHAКESʫģERjn%jk$!TEКұ Ujlȼұ UиjsȼHAʫģERjn%j$ ӓǖTSEjqȼĉʫģERjoȼĉӄКSHHAЗABŦSɜĉjoȼABŦSɜĉʫģ",
  "ERjy%i!PALOCHKAi£ȃ#ˏjkȼKAʭИELʰИENʭИENʰИŦŤSɜĉjpȼEMʰji%lPALOCHKAj$!A#ˏИAӰjm%j$ ӓA IEjoȼIE#ˏЙSCHWAj",
  "gȼSCHWAӰjq%jk$!ȃjo%jl$!ZКABŦSɜDZEjoȼI#ϳЙIӰjm%jk$!OjmȼтOЙтOӰjt%jk$!EjmȼU#ϳЙUӰjmȼUÚʼjkȼĉӰjoȼľʫģERj",
  "oȼYERUӰjpȼľи)ɘjq%je$!HA#ИHAиjkȼKƒ±ИKƒ DJEjjʲKƒ Zjj%jd$!Kƒ DjkʲKƒ LjjʲKƒ NjjʲKƒ SjjʲKƒ TЙӛZEjmȼEL",
  "ʭИLŇeʲRjeȼYAEjeȼQAjdȼWEjdȼæUT¹ЙEL#=ɘjj%jȍENЙPEʫģERjn%jk$!SHŇpȼEN#( ɘjkȼDZȃjgʲDCЗELʫģERjn%¡1"]

end RepoAtlas.CharName
