/-!
# Names of characters: forms

Scripts from Lisu to Meetei Mayek, presentation forms and variants. The layout is that of
`CharName.tables`.
-/

namespace RepoAtlas.CharName

def forms : List String := [
  "aLISU!BAfPˁDAfTˁGAfKˁJAfCˁDZAfǩȐfMAfNAfLAfSAfZHAgAfƄfHAfXAfHHAfFAfWAfǂfYAfGHAfAgEfEgUfIfOfUgEgHf",
  "OEfʉ MYA TIkNAÉkMYA CYAoBOoNAoJEUe ԯ˖rӏaVAI ӜEEpNnŉncWqNnƟncBHocndMncKPncMGBnencFncVncTocHndDpcH",
  "ncLncRncDndNncSocHncZocHncCncJndNncYncKȜGGndncMȜocYțNnHIpNnWIpNnPInBHIoIncMnKPInMGBIndnFInVInTIo",
  "HIncDpHInLInRInDIȜnSIoHInZIoHInCInJIȜnYInKInƅIncnMInNIoYInAoNȜGnHApNnWApNnPAnBHAoAncMnKPAqNnMGBA",
  "ndnFAnVAnTAoHAncDpHAnLAnRAnDAȜnSAoHAnZAoHAnCAnJAȜnYAnKApNnƅAncnMAnNAoYAnOOpNnHOOncWqNnPOOncBHocn",
  "dMncKPncMGBnencFncVncTocHndDpcHncLncRncDndNncSocHncZocHncCncJndNncYncKȜGGndncMȜocYnUoNnHUpNnWUpN",
  "nPUnBHUoUncMnKPUnMGBUndnFUnVUnTUoHUncDpHUnLUnRUnDUȜnSUoHUnZUoHUnCUnJUȜnYUnKUnƅUncnMUnNUoYUnOoNȜG",
  "nHOpNnWOpNnPOnBHOoOncMnKPOnMGBOndqNnFOnVOnTOoHOncDpHOnLOnROnDOȜnSOoHOnZOoHOnCOnJOȜnYOnKOnƅOncnMO",
  "nNOoYOnEoNȜGnHEpNnWEpNnPEnBHEoEncMnKPEqNnMGBEndqNnFEnVEnTEoHEncDpHEnLEnREnDEȜnSEoHEnZEoHEnCEnJEȜ",
  "nYEnKEnƅErNnGEpNnMEnNEoYEoGnLĤǛNERe˖eӏeәeӜNDOŭFAtKAtSOOd; FEĤfeKfcTIfNIIfBîfFAAfcTfDîgcOOfcKUfcT",
  "OfDO-OfJƕdϋfƔfǬgɚfɏgšfǉgɋf|fɭeӜNDOŭŷDO¡20aCYѧ$!ZEMLYAjhȼDZELOjgȼӛDZEКŝAЗDJERVjgȼſOˮ UKКBROAD Ηjm",
  "ȼї YERjm%je$!YERU#BßjoȼIҫYATКӛYUjmȼIҫAjlȼшŰTŭYUSjs%je$!BLģEDjm%je$!IҫɆEDЯjz%!Ij$!YNjdȼӛTSEКSOFT±",
  "ИSOFT ELИSOFT EMИſOCβOjm%jj$!BIjm%jj$!+Ájo%ii!MULTIbOMĂɟCYѧVZMETtǘ ŽLŜS &tlёtmѰaSLAVONőҜaӶCYRŕIC",
  "!UKƮNɜIEtItYItUtŅD &tYERUtSOFT &tΗs¹VYKAtPAYĩKbYѧKAVYKAjPAYĩKj$!DWEjeʲDZjfʲZHЗCĉЗDZZEЗTE#=ɘЙTWEj",
  "eʲTSЗTSSEЗTĉЗHWEje%jd$!SЗ+ Ojeʲ˗EDjk%ԆCYѧŅD &scSOFTaӶCYRŕIC!EFtIҫEȆMUM!AgKAgUgKUgEEgcRgTAEgOgƊgI",
  "gLAgPAgRIIiEEgcLEEgeMgTAAgcNDhJAEMgMgSUUgMUgǄIhIhHĴhdgKYEEhETgNǭhUhJǭgYOQgǆgYUQhAgNǂgKĴgdPgNJEEh",
  "cTgPUEgcWgƟgcFgRUgLUgMIgNIgRĴhAEgKENgcNGKWAiGAiAgǅgPǭgFUhOMgWAgNAgLIgPIgLOQgKOgMBENgcRgcMhAgTIgK",
  "IgMOhBAAgTETgKPAgǘgNTUUgSAŸgFAéEgKOVUUiGHOMf¯MĂś] KOQNDONrTUKWĥISgNJAEMLIgӏg˕iMMAgɽ˕gә¡8ԆĊNEƿʉ Y",
  "ŘƤGxfîxcŘǂxgîxŘQUxdîxŘRUxdîjEXǥ-˵ϦʧȫjujqMIDjqŲjtEXǥ-pj˵Ϧ (-ǍMjzHIjxMIDjxŲjzEXǥ-LpqɗjujqMIDjqŲjtE",
  "Xǥ-jeė <nΩn[ȫjєФόjϹ×*q^*qԨqmӑjwŲjǐĬ)˵ʉqfŲaҦEGYPTOLϷ ȽДEGYPTOLϷ âgsȺHĤgfȺTZЍǦSŕOgj%ge$!CUATRБCUAǧ",
  "LLO#˖gq%fʩFkSf£AAЍAOЍAUЍAVЍAV#[ȫАAYЍӛCȷgpȺKиgj%gȍK#Ӎgs%gp$!Kи)gzȺBRƎN LАL#˵ϿgoȺO#˿Ͽ ϸYgwȺO#LOOPЎ",
  "OOЍPиҕ±SCģERgz%!PȍP#FLOUƸHglȺP#SƬRREL ʃgqȺQиҕ±SCģERgz%!QȍQ#ӍϿgsȺRÌTUNDAgk%gi$!RUMВV#ӍϿgsȺVYЍVISI",
  "GOǜC ZГTəиГTəиҕ±SCģERgz%!TəȍVģgfȺETЍISЍĎge%ԆǹҧDUMicLicMicNicRfdʩfc %!TicȍIљDБIљFБIљGijѱgrȺѱLАIљR",
  "БIљSБIљTgk%Ԇɩգj˕jϺҠaҦƽǠLOАѱHȎLՋ)BELTf!SINOLϷȭf£NʫģERВC#Āgg%kPоɘinHȍB#FLOUƸHglȺFиАVOLAPUK AEglȺVO",
  "LAPUK OEglȺVOLAPUK UEglȺG#OBLIƫжgr%gp$!Kgr%gp$!Ngr%gp$!Rgr%gp$!SgrȺHʭiӛΘEiѩGiL#BELTi%¢IfʩQf£ѱKpT",
  "iJ#˗ED-ʃiĊiɃgfȺΗggȺUиАGѓAБGѓIБGѓUБɯPƐSH OГîůë WВC#PоɘieS#ieZ#PоiD#ϺϿ ϸYgx%gv$!Sgx%¡5ȍшIљGgr%¡1ȑT",
  "ə¡1kWYNNȍ=SCOTS SgjʱSIGMOIDgk%¡24Ԇ$ ClFlQaҦӛɒ Hgq%gEPIˮIC!ү IԆ$ HиȔӓOEaŬINʩѱMf EPIˮIC!ӛFz PrӑMs¾",
  "ƄrқMaSYLOTIÃGRI!AnIm¥DVISǺAm!UnEnOm¥HAƾTAm!KOoHOnGOoHOm ӱm!COoHOnJOoHOnTTOpHOnDDOpHOnTOoHOnDOoHO",
  "nNOnPOoHOnBOoHOnMOnROnLOnRROnSOnHOmӃAvIvUvEvOOnPOETRY]-1v2v3v4n& ӵHAƾTA¡3a϶řőԩ ѤzɒvЂѤSvɰѬTHz|HvЂ",
  "ѬTHSmѤ]mdƥCEHƏmRUƟ]mQUïITY]¡6aƢGS-PA!KˆGAjcNjCˆJAjƉjTˆDAjNAjPˆBAjMAjǩșjDZAjWAjZňAȔAjYAȗȖjǂkAȕjAj",
  "IjUjEjOjQAjXAjFAjGGAjEEiÑB˹D!WAtYAi!ǪșjējƆjӵYAjθɥȴocD jASPIRøD³iÑB˹D!RAlfơFIXi!ԕiд ɔ]jg+i]ȴDke+ ",
  "¡8aSAURôǥ ӱnѷk!AmAlImIlUmUlӠuRtLuLlEmElAIlOmOlAUlKˈGˈƄlCˈJˈƉlǪnHAlēnHAlƆlTˈDˈNAlPˈBˈMAlYAlRAlLAl",
  "VAlǂmSAmAșlűk Ԗ´ARUlӡAtIuItUuUtӠzC RRzC LzC LLtĶtAItOuOtAUlҖnԕ¡8l˚lȌlʻmƔmǬnɚmɏnšmǉnɋm|mɭ¡6aӶDEVë",
  "ĽIϋwƔwǬxɚwɏxšwǉxɋw|wɭu!AvUvKAvNAvPAvRAvVIu¥AεHAaDEVëĽI¥SPACɟԕnԕ Њns+ nԕȶzήzAεHAnPǸPIKAlGAPʜERlćE",
  "TlɔϿl&ÏDDŃlJâ OMk!AYkcӃaKüH½ϋkփk|kɭi!KˆGAjcNjSˆZAjƉjTAjcHjNAjPˆMAjDAjBAȗjYAȖjWAjǚjcjVAjCýjOEjIjO",
  "Oiϝ UEpEpUpEEpOjʉÈOPHUoąYAtÈOPHUj& CWIlSHYAaREJî!KAhGAhcNhTAhDAhNAhPAhBAhMAhCAhJAhƉhSAhRAhLAhYAh",
  "WAȐhŸhƅAiDAiYJAhAgӃIpUpEpAIpOpAUpEUqAhԖ NGtNtRtHhЊ¡11hѪ]ańGUL®OSEƕ Є-ΒxΚxʀx˔qΟмwgάwЄwgάwΒwΚwfάwf",
  "ţYEOUNwʀw˔wϭHqΒмwЄwʀqΚʴ-ѯwϭHw˴qάʀ-Κq˸-Οw˴qgά˔vѯqѢ-˴q˴ʴqάYEOƷ˴¡3aJAVíƿ&ÇƉƅAlCECAKlLüRlWIGƉNi!AjI¹",
  "WIjIkIjUjPA CĨKjƄ¼LETsÊSWADIjEjAIjOjKAlÍSAKmMURDAjGAlвƄjCAlвJAjƉвJA¿HAPƱAjƉjǪm¿HAPƱAjēm¿HAPƱAjNA",
  "вTAlвcl¿HAPƱAjcjPAlвBAlвMAjYAȗl AGǲȖjWAjSAÂRDAnAHAPƱAk˅¥CECAKÓLUjҵTARǲscOLOrWULUvÀLIKrSUKUvÀNDUT",
  "rTAɧrDIRGAÂRErPEPETjcԖºRvƠGKALvCAKRAjƛGKONj(ËRĤGANjk'jPADA¨DAPȞDYAoLUHURoWřUoƛGKAToɧSApǲSIoàGs à",
  "GoPISĠHjmѱ¡1jƛŁNGKEPjʻkփk|kɭ¡4jPADA TIRTA TUMETESoISEN-ISENaMȀŵ!ǂN GHAncCncJnƆnBHAh¥ǂNÍWiMODIFIE",
  "R!ǂNËDUPůˀh!TAI»ɟƉsFAsGAtHAsJAtHAsēuHAsƆhÒI»ɟʻtƔtէtǉuɋt|tɭh!TAI»ɟűsDAtHAsBAtHA¡1aĈM!AfIfUfEfAIfO",
  "fKˁGˁNGUEhAfĈȐfJˁNHUEhAhJAfTˁDˁNUEgAfēfPAgPˁBˁMUEgAfBBAfYAfRAfLAfVAfǋgAfHAeԏțInEInUnOEnOnAIoUnUE",
  "fԖ YArRArLArWA¡9e!ϨKlGlNGei Ԗ e!ϨCHlTlNlPlYlRlLlSSe Ԗϑ MxH¡2fʻgƔgǬhɚgɏhšgǉhɋg|gɭ¡2fԯSPIƯr˚rȌrgІa",
  "MȀŵ!ŦMTI GApCAȠpJAȠpƉpǪrHApērHAqcpNApSApHAȠpFAhÁDIFIER!ŦMTIËDUPůˀh!ŦMTI XApZApRAh¾GΖ ŦMTI OAYyQN",
  "yHMh; AIǢ Eμˀpѝh!AIǢÊh¥PAOϕʧkTAI»ɟʉ-2z5h!SHWEÇLAǲ®AvcSaTAI VIET!ɩKOԈ KHOjeɗjcɩKHjfң GOjdɗjcɩNjeң",
  "¯Ԉ®Ojeң SOԈ NYOjeң DOԈÕԈÔOjeңÄԈªԈÉԈ PHOjeң FOԈÁԈ YOԈÌԈ¾Ԉ VOԈ·Ԉ Ojcɗi¿I¹NGjЌAApIpUEpUpEpOjų KHITj",
  "ЌIApUEAqApAUEqYqNqMjʉ¿I EKsNUĤsǝsSƕ¡24i; KONkNUĤkSAMkHO·IkcKOI KaMEETEI¿YEK!EnOnĈnƉnǪpHAnēpHAnƆn",
  "ǂoSAmӃIIvUUvAAIwUwAUnĉIŦNnAńG KHǯMoNJInӜREPETIʇ]nmʏnҵѷoIưA¡10aİIOPőӜTTHUvIvAAvEEvEvO¡2sDDHUvIvAA",
  "vEEvEvO¡2tZUuIuAþĶuO¡9sCCHHAwUwIwAAwEEwEwO¡1sBBAȢIuAþĶuO¡1aҧтʾiA ѦD-SCHWAi>ϰ EicĀREDiE#FLOUƸHiLE",
  "NIS FiѩG#˗ED-ʃiL#ӑLAZY Sk+ =ίk=ɻiM#˗ED-ʃinNinĤi>ϰ OrиijɱiӑOEҷOEиsg[ qʣ-OxиiǎRRǳRfʩR#'¼GʒRÙǝUT ɓL",
  "EȑRiR#˗ED-ʃio+ iѩRq#ɻiBASEɦ īiU#Ϻ'¼GjmȫjIicѱiU#( ɘiĊl#ɩ'ʤq( ΤiX#ɩ'ʤmƃ(¼Gu)ɩ'ʤu#ΤiY#Ϻ'¼GȉDIFIħˏ#ӑ",
  "ˏi!%µNGlL#ӑLAZY Sn=ίlU#( ɘaҧSAŦ YATiIҫEiΘOEiUOiӑʾa˰ʩΗaҧDZҒՋixTSjURNěR#=ίԆ% ѱWj(ʥjf'¡4aĉRƎE %!AlE",
  "lIlOlUlVlGAlKAlGEmImOmUmVșȚImOmUmVlLAȚImOmUmVlMAȚImOmUlNAlcHlNAHȚImOmUmVlQUAnEnInOnUnVlSAlSȚImOm",
  "UmVlDAlTAlDElTElDIlTIlDOmUmVmLAlcTnEnInOnUnVmSAnEnInOnUnVlWAȚImOmUmVlYAaMEETEI¿YEK!KOKnSAMnLAInM",
  "ITnPAnNAnĊLncTnKŎȜGncTHnWAInȀGnHUKnUNnInƢMnATIYAnGOKnJŃnƮnBAnJILncDnGŎndDnBŃnKOK¾NSUMnhLAInhMITn",
  "hPAniNnhǠnhNGOUnhImӃONAPvdIvdAvdYEvdǊvevdĉIvƈGnĉIKHEInLUM IYEKnfAPUN¡2nʻoօ¡11190ańGUL JǲSEƕ O-YE",
  "OtO-IrYO-AvĶOrcU-YtI-IrYU-AEuOrEU-þOuEuOrcI-YAvĶOuEtO-ItYOuUtIrñEA-AxE¡4iƕSEƕ Δ-ΟxCϪrάЄzĳ-Κrmyʀz",
  "IOSмy˔zϪyѯrΟ-άϮxϮ-˴rάΟ-ϭHrΟ-Β-˴xΚ-ЄzEUP-ѢxYES˸zOƷ˴-˴rţYEOUNΟrΒ-ΔxfάrάΒrΒ-Κʴx˔rΚ-ЄxΟ-ѢxΒrάΚrΚʴ-Єx",
  "˔yϪrʀ-ΒwţYEOUNΚsƾGʀмzS-ЄsIOS-ƛʀw˔xϪwѯw˴rƛʀ-ΚzfţYEOUNrYES˸-Βz-˴r˔-Κxfάrά˔rѢʴzѯ¡8964aŬŘ% ӓFFsIsLsF",
  "ItLr˿S TrST¡12aARŻɜ% ӓŻÄWyECHyINIuVEWÄWuŻ XEH¡5aHEĄW!Ȃ#ōIQg Μ JUDEO-SƛŞ ǺIKAhӓYIDDŞ Ȃ ȂÇǒg!пʈ ɀh",
  "Wœ Ƚm˙mHEmŢm˼mϨźmɺmTAVhпʈϚ&hɾ#ɾȭngmgDáSH)SHughȽ#P÷HmQéTSmMAPIQhBET#DáSHhhˬhh˙hHE#MAPIQhVAV#DáSHh",
  "hZɀ¡1hhTEThhȂhhϨŢhkhh˼¡1hhź¡1hhƈhhSAMEKH¡1hhϨPEhj¡1hhǩDIhhQOFhhɺhhɾhhTAVhVAV#HOũhBET#RAFEhfŢhfPE",
  "g ӓȽ ˼ξIC!ȽØSLA_ʞrӤBEEHցPEHրBEŊՖnЖTTEŊ_nѻoЕoiŹifEŊՖniŹifTEHցVEHրPEŊՖnЖDȁցNȁցTĉHՖniŹmfEH_oѻpЕpЖēH",
  "AL_nѻifAHAL_mѻifUL_kѻifĒ_lӤJEH_kӤRƴ_lӤKEŊՖnЖGAF_kѻlЕliŹifUEHցNGOEHՖniŹifƘ GHUƆ_sӤRɮՖnЖŊȹ,_pѻkf G",
  "OAL_pѻqЕqiŹlfDOAĈSHMEE_wѻxЕxЖȁȫREE_rѻrf#˱,_yѻg;ȭ,l@iҲ,q@jɚʛ,s@sҽ ^:,zƃ^:@iӎ,r@ȑ<ȫ@iҲ <LY,u@iɻi%Ò",
  "H,n@iWASLA,¡16g!NG_ʞjѻkЕkЖU_iӤOE_jӤYU_jӤU#˱,_hgVEjӤKIRGHIZ OE_rѻpfYU_rӤE_iѻjЕjiŹhiUIGHUR¹ZAKH KI",
  "RGHIZ ԧ¸ITziHIZ ԧÀDgf ӓӣ,#Ƚ_zf,#Ƚϑzf,#AE_zf,#AEϑzf,#Ǽ_zf,#Ǽϑzf,#U_zf,#Uϑzf,#OE_zf,#OEϑzf,#YU_zf,",
  "#YUϑzf,#E_zf,#Eϑzh,#EϔqfUIGHUR KIRGHIZ ӣ,Զ_zfRGHIZ ӣ,ԶϑzhRGHIZ ӣ,Զϔgf!FARSI ȁ_qѻrЕriŹgf ӓӣ,ʮ_zg,",
  "ȸzg,ʯzg,Զzg,ȹqgBğɢuȏHujKugɫuնgTğɢuȏHujKugɫugԧugȁrgŊʮvjMvgԧvπhɢ#HAvgɫqȕH#JujMqjɣ#JvȏHvgɫqjɼ#JvȏHv",
  "jKvgɫrgADȸugɫqjDAD#JuȏHujKugɫqgǒȸugɫqnZqjâ#JujMqj˫#JwjMqjFğJuȏHujKugɫuնhƪ#HAugɫuնgŢ#ȽugɢuȏHujKug",
  "ũuhMEEuնgũʮuȏHujKugɫuնgɫʮvȏHvjKvgɫvgԧvπgɮʮvȏHvjKvgɫvgԧvπgŊʮujMuնgȁʮuȏHujKugɫuնgǚL#ԳȽqxƴqxԧqgǂē#D",
  "ȾǔxkŤRxgFȿxhDAMMxhŤRxgԳȽqfӣ,#ƴϑzl,#Zâzl,ʯzl,#ɮzl,Զzl,ȹqnBğRulZâulɫulɮulԧulȁqnTğRulZâulɫulɮulԧulȁ",
  "rnŊ#RvlZâvlɫvlɮvlԧvlȁqlFğԧѾƪԶѾŢ#ȽulũumMEEulԧѾũʯulԧѾɫ#Ƚvlɫqlɮ#ƴvlZâvlɫvlɮvlԧvlȁqlԧ#ԳȽqlȁ#ƴulZâulɫ",
  "ulɮulԧulȁuh˱,ʮϔzn,ȸzq,#Kzn,ʯzn,#ŊqnBğɢunłuqKunɫunŊqnTğɢunłuqKunɫunŊrnŊʯqnɢȸvnɫqȠH#JuqMqqɣ#JvqMqq",
  "ɼ#JvnłvqKvnɫrnADȸuqKunɫqqDAD#JunłuqKunɫqnǒȸqnZAHʯqqâ#JuqMqq˫#JwqMqqFğJunłuqKunɫqnƪȸunɫqqŢ#Junłuq",
  "KunũuoMEEqqũ#JunłuqKunɫunŊqnɫʮvnłvqKvnɫqqɮ#JvnłvqKvnɫvnŊqnŊʮuqMunԳȽqnȁʮunłuqKunɫunŊviAMZA,ʯÀDzm,",
  "#ŊqmBğɫumŊqmTğɫumŊrmŊʯvmŊqmɼʯvmŊrmŉNʯwmŊqmŢ#ũunMEEqrũqrɮvmŊqmȁʯumŊqmǂē#FȿxnDAMMxnŤRqfǒԶ_uπgâԶuπg",
  "˫ԶwπgɼԶvgȁrgŉNԶwπȏHԶuπgɢԶvπgɣԶvπgSADԶuπgDADԶuπgΦʮwȏHwjKwgɫwgƴrnrkADqmDqfǒԶϑѾâԶѾ˫ԶwlȁqlɼԶvlȁrlŉNԶ",
  "wlȁqșHԶѾɢԶvlȁqlɣԶvlȁqlSADԶѾDADԶѾΦʮwșHwoKwlɫwlƴrsrpADqrDqhΦʮϔwnłwqKwnɫrnEEN#ŊruHqnǒʯqiɼʮÀDvmłvpKr",
  "mŉNʮwmłwpKqmǒʯqtZqhȽ#FȿǔȮzf÷N_aORΓ(Ԥhm'ξőӓRAHŖHU§LAAHsDI§LAAHU¨HzAHU¨HAAzAHU¨HUMzAHU¨HUMAAzAHU¨H",
  "UƆqƽLèAAHU§AYHIØ-AçHqåYHI AS-ƽAAMwkMxkAAwj AS-ƽAATU WqQUDDISAÏƼHqƽLèAHU§AYHIØAçŉØ-ƽũqcåYHAA AS-ƽ",
  "AqTABAñKAØ-TAAåAqRAHŖHUM§LAAHqTğɢʯϔäɎuȐHʮȮzhEEMϔyqMuvKuqɫ#JznłzqKqhɢʯȸȮzhȸϔqȐHʯȹȮzlԧqhɼȸʮϔvnɢȸzh",
  "ԶȮvlɫȸzhȸϔznʮzhʯȮzhʯϔrhADȸȸȮzhAHϔuhɫʯȮrqŉNȸzhʯϔwhɢȹȮwmɫ#ŦzhM#ɣϔzhMʯȮzhMʯϔqhDADȸԶȮulɣʯzhɫϔqhǒʯȸȮz",
  "ȐHϔznɫzhȁȮqlâʮʯutMzhɫϔzhԧȮql˫ʯʯzlMȹzlMԶqlFğɣʯzhɫϔqhƪʯȸȮzlɫqqũȸylȁylԧuhɢʮϔzhɢȮuoɣ#MzhɫϔuhɫȸȮzȐHϔq",
  "nɫȸʮzqMzhȁȮvhɢȸϔznʯvqɣ#Jzq#M¡2vnɢ#ɣqnŊʯʮzqMqsɮȸzhԧȮvlɢʯzhʯϔzhԶȮvlɫȹzlԶqlȁʯʯzhɫϔqhBğɣȹȮqpTğɢzlԧul",
  "ɣȹzlԧulɫȹzlԧqlɢʯȹvșHԶvyɫqyɼ#ɣrlADȸȹrtŉNqtDADqpũʮusMqpȁȸupɢusMquɫquƪqpɮȸqhƪʯȸϔqnũȸʯqhâʯȹȮquŢqhɮʮȸ",
  "ϔqhɫ#ɣȹȮqhũʮʯϔqhŢʯʯȮqtũ#Jqlɮʮȸqmɢȸ#YEqpłʮquɫqsFğMqpBğłqhŢʯʯϔqvâ#JqvSAD#MrhEEN#ɣȹȮqpɮʮ¡7qƽAAMUHU§",
  "AYNAA¡32tLA USěAS KOƱőǏP &_ʞqzQå USEqgèAHrgKĀqgMOHȾDqgƽAMqgRAǊLqgåYHEqgWAƽũqgƽLAvűŎ§AYHEØƽũqJèAJ",
  "åLOUŎaRɛ&ξőӓBISŽLAH©-RAHŴ©-RAŉMqǑHAëHUØÒAåAqAZZAØ Jèaζʇ Sь-1t2t3t4ӥ9t10u1u2u3u4u5u6aƧSĥϠɎʝ< ˖yfԙ",
  " zDEOˮőӏy˕yfɽyԨyfƫSy( ~¼NǞUūҐyc' ~¼NǞβăKCy[ ġIƩS¡6aӶӓ(ʡtf'kȌί (sf'kfϳ (rf'kĎJƍɟϳkӓ(ʡ@tg'kgί (qg'",
  "kgϳ (rg'kĎJƍɟϳ@lYѧTITLO (ʡzf'aƧSĥϠɎʝ<ȶȭ¼àRyEMʚzfNyɩɦyiWAVY y(Ԥym'y(Ճyo'yi(ÕRTOIƿǃLLyx'yi( >¼NǞUū",
  "yv'yi( +όyq'yo(yo'yi(Фyp'yp( ~yr'aSESAMEȭak~ aƧSĥϠɎʝ< (Պyp'aDôěɳɦajϤɦajWAVYan+ aeDôěɩajϤɦajWAVYa",
  "% ˖cfԙ cӏ¡1cɽ˕cfcәcfEμAdMʚc(Ԥcm'c(Ճco'ci(ÕRTOIƿǃLLcx'cњ&cAҩdǍƸKcΛ&cϫ-žUScӒ &chGƲǙccˤS¡1cԱDUScDƑð",
  "&ccơɄcčżCɛAT¡4ξőFȿǔ_ʞhTATWEEL#Fȿǔ,hDȾǔ_ʞhʃ FRAGɬhŤR÷N_ʞ¡1hgFȿmfаhfDȾ_mfаhfŤRA_mfаhfǂē_nfаifUKUN_",
  "mfаgf!˱_hgȽ#MAē,sѻmf˱,_sӤǼ#˱,_rӤȽ#˱@_sӤӣ,_rѻsЕsЖȽ_lӤBEHրTEH¿RBUTA_sѻkf_kѻlЕliŹifŊցɢցłրɣցĒ_kӤǚL_l",
  "Ӥƴ_kӤZâ_lӤɼ_lѻmЕmiŹifŉNՖniŹifADրDADրǒրZAHրâր˫ՖnЖFEHրƪրŢրũրɫցɮցŊրǼ_kӤԧ_tӤȁ_kѻlЕliŹgf ӓũ#Ƚ#MAē,_zf",
  "MAē,ϑzf˱,_zf˱,ϑzf˱@_zf˱@ϑyf_yѻ¡2aZĩÙDTHÄ-ĄAK Ϋ¡1aFǰWIDTH ԨkgQUOTkњ&kdDƑAkcơɄkAҩlӖk(Ԥkm'kҜkΛ&k˖kϫ",
  "-žUSkӏkΪUSkքl|lɭk˕kfɽkӒ &kcˤSkcԬkәkčżCɛATkҦAsBsCsDȡFsGsHsIsJsKsLsMsNsOsPsQsRsSsTsUsVsWsXsYsZk(Պk",
  "ԱDUSk'ՊkգkɩɦkԘTkҧAsBsCsDȡFsGsHsIsJsKsLsMsNsOsPsQsRsSsTsUsVsWsXsYsZk(Ճk< ɦk'Ճkίk( ~Ԥko'aɒWIDTH ԙ ",
  "ӏk(ФҐkp'kԙ ˖kKс =ės!WOt% AvIvUvEvOvYAwUwOvTUs-Ҥ ƨɨěSɲ]s!AtItUtEtOtKAѽOtSAѽOtTAѽOtNAѽOtHAѽOtMAѽOt",
  "YAȢOtRAѽOtWAtNs θD Sɲ]tnɽ-kńGULʜERq!ϮrgάrϮʴrΔw-˔x˴rЄrgάrΟwмxΒxΚxʀxѯxѢx˴rΒrΚrfάrΚʴresdƾGSr˸r˔rfάr",
  "CϪrϭHrѯrѢr˴¡3rAsErYAtErEOrE¡2rYEOsErOrWAtErOE¡2rYOrUrWEOȡIrYU¡2rEUrYIrI¡3aFǰWIDTH Ʉ &kcPɲkcƇkϳkB",
  "RƎNȫkYĢ&kdWO¡1aɒWIDTHʞSϗ <kÝkcUPkc'kc^k>еk~У¡10ȈǙɦðANƇϠANċRxcSEɵTxeǙžaOBJECTËƥCEɬ®ñCǙav¡2"]

end RepoAtlas.CharName
