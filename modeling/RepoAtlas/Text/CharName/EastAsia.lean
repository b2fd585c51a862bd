/-!
# Names of characters: East Asia

Signs and syllables of East Asia, Glagolitic and Coptic. The layout is that of
`CharName.tables`.
-/

namespace RepoAtlas.CharName

def eastAsia : List String := [
  "aGŨƐǞ£AZUnBUKYnVEDEnGŨƐnDOBROnYĭUnZHšTEnDZELOnZEMLJAnIȃodјInInDJERVInKAKOnLJUDIJEnMYSŰEnNôInONUn",
  "POKOJInƹSInSLOVOnTVRIDOnUKUnFƹUnŋUnOTUnPEnSHTAnTSInCHRIVInǂnYERUqIoATInSPœRY´nYUn% YUSsʰnYOnŝøD¤",
  "YUSneBIGnhŝøD nFŠnIZHIǩnSHTAPICnǨKUTõI AnŬIΓMYSŰEnCAǯǖCHRIVIl%!AZUnBUKYnVEDEnGŨƐnDOBROnYĭUnZHšTE",
  "nDZELOnZEMLJAnIȃodјInInDJERVInKAKOnLJUDIJEnMYSŰEnNôInONUnPOKOJInƹSInSLOVOnTVRIDOnUKUnFƹUnŋUnOTUn",
  "PEnSHTAnTSInCHRIVInǂnYERUqIoATInSPœRY´nYUn% YUSsʰnYOnŝøD¤YUSneBIGnhŝøD nFŠnIZHIǩnSHTAPICnǨKUTõI ",
  "AnŬIΓMYSŰEnCAǯǖCHRIVIaҦLÚĀЏL#=ίiPиiRʰȎAиigT#ӍȍHʫģERgm%gk$!Kgm%gk$!ZВʾiMʭҷAqLƢȎV#' ɘge$!W#gh%iV#Ɉ",
  "ȍɒ Hgh%iʃɥ ƣiE#ƇCHҷRʰiO#ɩɻЬfʩѱEfÑBѩ%!JԆ$ VaҦS#SWô ʃilZaCOPǞ£ALFAhfȻVIDAhfȻ˪hgȻĒDAhgȻEIEheȻǊheȻZ÷",
  "hfȻHøhfȻǛǛhhȻIAǯhgȻţAhfȻLAULAhgȻMIhdȻNIhdȻKSIheȻOhcȻPIhdȻROhdȻǇAhfȻǕheȻUAhdȻFIhdȻKHIheȻƩheȻOOUhe",
  "ȻĖLECT-P Ƚhp%Ծ âhpȻCRYPTΖMőEIEhsȻĖLECT-P¹PAhpȻĖLECT-P NIhn%hd$!CRYPTΖMIChr%Ծ OOUhpȻSAMPIhgȻ˗ěǃIh",
  "n%hf$!ɯCOPǞhq%Ծ īhpȻAKHMIMőKHEIhoȻĖLECT-P·RIhp%hf$!ɯCOPǞhq%Ծ´ho%hd$!L-ǂPEDhm%ԾµIhp%Ծ´Thp%Ծ GîIAh",
  "s%Ծ DJAhp%ԾÎŖhr%hȍɯNUBŐhrȻɯNUBɜNGIhpȻɯNUBɜƊhpȻɯNUBɜWAUhp%g;¹IiMIÌiePiǌUROSiǕÌidKHIiǄMAÏMAg£CRYPT",
  "ΖMőǃIhtȻCRYPTΖMőGîIAhv%hӶNI,rSPIƹǷASơz¼NISh$!BOHãőKHEIho%¡5hɯNUBɜӏsDIƳT әsqINsǻSEШRhԩʡiǰÐOPhMORP",
  "HOLϷШRaGEORGɜ%!ANlcBlcGlDONlENlVINlZENlǔlINlKANlLASlŴlNARlONlƝlcZHlRAElƾlTARlUNlƢRldKlGńlQARlɾld",
  "CmANlJILlcCmŅlXANlcJHșEȚIElWEșRmOE¡1lYN¡5lAEN¡2aTIĸAGH!YAlBmHlGmHHjāā ACàMY YAJjdlDmHmDnHkEYkAFl",
  "KjdTUAREG jYAKHHlHjdāā ACàMY jeTUAREGjYAHHlAlKHjeTUAREG jYAQjdTUAREG jYIkAZHjeAHAGĽ jfTUAREGjYAL",
  "lMlNjTUAREG YAGNsNGjYAPkUkARmRlGHjeTUAREG jfAYERjYASmSmHlTmHlCHlTTlVlWlYlZjdTAWġEMET jYAZZȘO¡7iÁ",
  "DIFIER!LABŏIZϡjSEɵǤ]¡14jӷ˹RaİIOPőӜLOAscMscRscStcHscBscTscCscNtcYscGѓscZscDtcDscJscTHsdCsdPtcsGGW",
  "AvIvEEvE¡9sǋȢIuAþĶuO¡1sCCAȢIuAþĶuO¡1sZZAȢIuAþĶuO¡1sCĈvUvIvAAvEEvEvO¡1sQYAȢIuAþĶuO¡1sKYAȢIuAþĶuO¡",
  "1sXYAȢIuAþĶuO¡1sGYAȢIuAþĶuO¡1aӶCYRŕIC!BEtVEtľtDEtȃuEtKAtELuMuNtOtPEtERuStTEtHAtTSEtĉtǂvĈtFŠtES-T",
  "EtAtIEtDJERVtſOˮ UKtYATuUtIҫAtŰTŭYUSteBIGthIҫa'όÑBǎTUʇ]ERipϦ ȄǑǎTUʇҐav'av( ϦȊ DOaϹ¸ǙPOLϡERhqϦ ah",
  "ϦÖANSPOSIȄǥNSPOϼҐaw'aϹеȄϹ ƒSɿҐay'aEDIǤɛďONISaɵˮOSalļKěasӛaHYPOĖǏŮϦ OBELOSa^:¨ďAaiǶϦ 'ӳʿa+ OBLIƫ ",
  "ϫaӑINǙROBîaPALM ăNCHaϫӰaί#ɻ,ȄɩɵPHRASEҐax'aίʬj@Ȅ<ȫ#ƬLLam'aǣ (ʡҐen'anϢ (hn'ai( ү Uat'Ȅ+Ԥao'aҲϙɰė Ә",
  "ƖmɰėϙҲamϾD ɏȭaɍȭ]aӛәa< ίaɻ Μaʏӯ =ėaѱ˖aϹȭh˖aѱɽ˕aDAGGER#( GUòhg'aѱDAGGERbOPʡ Ѫ &bWO-EMʚbiɚaǍNOˮőӏa",
  "<ÏXʛaWIGGLY < ɦaCAPITULUMa+ ϫaӛ˖a+¾W-ѦD-9ԍaDô#(×ʊa+ÑSƠɿ]aӑɩKAVYKAt#KAVYKA,aɩKAVYKAkȷa+Ðßě˖aϦ ΪǹІ",
  "°GGĪŹIEVä˖aɵˮUS]bdUNCTǷĠVATaďNŞ ǻSEШRbROSSÇTTY#'ώĀmj(aTIƺɜ&¢ıŹIEVäԨjfƫSa(Պиaw'ag(ՊÚay'aǣʡ (Ԥjm'a",
  "mϢʡ (mm'aOBLIƫ ϫ¡34aCJKÊDɝËƞTmCLIFFmSˠȲtǬuɚmɸONmBOXmTABLEmKNIFEғmDIVINˀmSEALm%ȲoǬmũEȲrԽmSNAKEmTH",
  "ƲDmSNƚғm˲ғnìmRAP¡1mċKEmSUNmMƘmDĚHmMOʅmCIVILŐmιғmĹEmPAWȲqǬmԟɒÖEEÖUNKmCOWmDOGmJàmBOLTȱČTHmĵmSPIƹȲt",
  "ǬmBAMBOOmSILKmeԹmNETȲqǬrɚqɏmMīmǃEPmưmEWEmƏmBRǸғmMĚnORTARmŁSSғtɚmTIGERmČǛSmWĭȲrǬmԹSEEmԟəmemԹSƟCHz",
  "ǃLLmĻTmԹćTmԟWALKmWALKȲrǬmCITYn-ԟGƏm˿ƔrǬmԹɨzGømMɲғmƮNmBLUEmԹǔNěLĚŋzLEAFzWřzFLYmĚȲqǬrɚmԹĚmɔmԹHORSE",
  "mBƔmGHOSTmԹFŞzBIRDzƽTmԟWHĚxYġOWmԹFROGmJ-ԟɋmqCmJ-ԟTOOTHmrCmJ-ԟĘĿmsCmǫTLEmgJ-ԟmsC¡12aKîXIÊDɝȲpcLIp",
  "ėpΩqˠpɘpǬpLIDpŴpLEGSpĥERp|p^ȬpCɳpŒpTABLEpɱȬpKNIFEpPOǾpWRAPpSPƘp'ʣȬpHI˝ENɆUREpǘpDIVINˀpSEALpCLIFF",
  "pPRIVøpAGâpMƚHpENɆUREqóHpSċūpGOr SŲLYpɋśpBIGpWOŴpĊLDpROOFpINCHp%pũEpďPSEpSƨUTpMџpRšRpWORKpƔSELFp",
  "ǫBANpDRYpϺTHƲDpϦ CLIFFp˿ǐœpʋɓSpǅOTpBOWpSNƚpBƸTLEpǍPp˲qALāDpDOORpɓpăNCHpRAPpSCRIPTpDIPơpAXEpϾpƇpS",
  "UNqAYpMƘpǦEpLßpǏPpDĚHpWEAPONpDOȰpčƝEpFURpCŪpǍAMpιpĹEpCLAWpFAʅp+ XpɒÖEEÖUNKpSůEpFîpCOWpDOGpƨFɲpJà",
  "pMELONpǠEpSWEETpLIFEpUSEpFIELDpBOLTȱČTHpSICKNĬpϦÓNTp~pSKINpDŞpĵpSƞRo*oÐƔqPIƹpǥCKpŁINpCûpǌNDpBAMB",
  "OOpRŒpSILKpJARpNETpǃEPpFĚŋpƏpìpPŲpępBRǸpMĚqINşERpSELFpARRšpMORTARpǢGUEpƙOSEpBOATpǏPƤGpCOLORpŁSSp",
  "TIGERpINSECTpBLOODpWALK ENɆUREpČǛSpWĭpSEEpəpSƟCHpVèEYpBEANpPIGpÿGERpǃLLpREDqUNpĻTpBODYpćTpBITǙpM",
  "ORNśpWALKpCITYpWŚpDşśUŞpVŕápGƏpɨpGøpMɲpSLûqHORT ʃěBIRDpƮNpBLUEpWƺGpķEpLĚŋphǔNěpLEEKpSɲpLEAFpWřpF",
  "LYpĚpɔpFRAŁNTpHORSEpBƔpTèpHãpFɞpSACRIFICɛWŚpCAULDƺpGHOSTpFŞpBIRDpƽTpDEERpWHĚpHEMPpYġOWpŽLETp>pEM",
  "BROœRYpFROGpǧPODpDRUMpRATpNOSEpɋpTOOTHpĘĿpǫTLEpFLUTE¡26aԙ±SCRIPʇ®ñCʄ(Õ 'υCǙ,Õ@υCʄ(Õ ΑE)'υCǙ,Õ ΑE",
  ")BEŲυCʄFǰÑRΠυCՑOM,υCՑOM@υCՑOM (zcŅACՑOMϜυCՑOMϜ 'υCՑOM ϲ(υCʄϸID¡4mΫm˖mӏaDITTO]aJAƛEƿřUǐɛǌNDò;aԙ I",
  "ǙϡmɆś]mњZĩȄʿҐao'ao( +aq'ai(Фap'ap( ~ar'aj( >¼NǞULAav'aPOǌL]aGį]ȄǤTOIƿǃLLҐax'ai( ~¼NǞUūav'ai( ~ÕR",
  "TOIƿǃLLȊai( ~еar'aWûʚaӛ+ PRŗԍasasɩaPOǌL]ϐńGZŎгLȲrԽsšrǉsɋr|rɭaԙ¼VELʧ]mgƸśmjDEɶmjĥĪȏNGULдȭhk+aWAVY",
  "ʚa<¹NAËƞT]n#θD Sɲ]n]Ϝʡnm#θD Sɲnh]¾WҶÉǌL]aԙÓLEˮ½ƂFEEDӯ;ańGZŎгLÓNsκscōa< ԙ IǙϡaMASU]aɶ пʇ]aԙ ζʇ¸D˷",
  "Rmɒʜ Ϋ¡1aҤ!% ýȔIjIȔUjUȔEjEȔOjOjKAjGAjKIjGIjKUjGUjKEjGEjKOjGOjSAjZAjSIjZIjSUjZUjSEjZEjSOjZOjTAjDA",
  "jTIjDIȔTUjcjDUjTEjDEjTOjDOjNAkIkUȘOȕjBAjPAjHIjBIjPIjHUjBUjPUjHEjBEjPEjHOjBOjPOjMAkIkUȘOȔYAjcȔYUj",
  "cȔYOjcȗkIkUȘOȔWAjckIȘOjNjVUȔKAmE¡2aӶKс-Ҥ θD Sɲ]znNA ɽ-anKс-Ҥ snɽ-aҤ IǙϡjkθD jDIˮ YORIaKс-Ҥ + ϫi!",
  "% ýȔIjIȔUjUȔEjEȔOjOjKAjGAjKIjGIjKUjGUjKEjGEjKOjGOjSAjZAjSIjZIjSUjZUjSEjZEjSOjZOjTAjDAjTIjDIȔTUjc",
  "jDUjTEjDEjTOjDOjNAkIkUȘOȕjBAjPAjHIjBIjPIjHUjBUjPUjHEjBEjPEjHOjBOjPOjMAkIkUȘOȔYAjcȔYUjcȔYOjcȗkIkU",
  "ȘOȔWAjckIȘOjNjVUȔKAmEjVAkIȘOi =ėi-Ҥ ƨɨěSɲ]i IǙϡjkθD jDIˮ KOTO¡5ȇPOMOFO!BjPjMjFjDjTjNjLjGjKjHjJjQ",
  "jXjZHjCHjSHjRjZjCjSjAjOjEkHjAIjEIjAUjOUjANjENjîjcEkRjIjUjIUjVjNGjGNjIHjOʬjNN¡1ańGUL!ϮhgάhϮʴhΔm-˔",
  "n˴hЄhgάhΟmмnΒnΚnʀnѯnѢn˴hΒhΚhfάhΚʴheidƾGSh˸h˔hfάhCϪhϭHhѯhѢh˴hAiEhYAjEhEOhEhYEOiEhOhWAjEhOEhYOhUhW",
  "EOiEiIhYUhEUhYIhIgʜERg!άΔhΔ-ЄnʀneƛheΟм-nЄnΚʴoeANnYEOƷ˴hΒ-ΚnʀneƛhţYEOUNΒhΚмnЄnʀмsЄn˔nѯhţYEOUNΚpfά",
  "hʀмmΔmЄmΚm˔hƛʀhά˸hfYESpʴqeƛhţYEOUNѢhά˴hfYEOƷiO-YAmEkIiU-YEOlEkIhñEAmE¡1aԙ¨ƇϠLINɤ]xѦ]xcONxǬ]yɚ]xɏ",
  "]xǣ]x=ŵKxϢ]xĹST]xSˠ]xcǜRxɏTH]xHEûN]x˞]xŴ]ȇPOMOFO!BUjZIjJIjGUjEEkNNjOOkNNjIRjANNjcIjcUjIMjƅjâNkcU",
  "kMjOMkNGjINNNiϑ!PpTpKpHi!GHjLHjZYiϑ!Gi!GWjKWjOEjAHaCJKж TlWGlXGlcBlSWlHZZnGmPmZWGldSlHZTnZPmPWGm",
  "ZWnZZlNlHlSlPlSPlDlHZmGlSZmWZmTmGlPDmZlTNlSZZmWGlcHXmZZZGlPGlQ¡12aKс!% KUlSImUlTOlNUșmImUȚOlMUlR",
  "AmImUȚOaӕIZěńGUL ϮvΔvЄvΟvΒvΚvʀv˸v˔wϪvϭHvѯvѢv˴vϮ AvcΔvcЄvcΟvcΒvcΚvcʀvc˸vc˔wcϪvdϭvdǜĳvdPɖPvdɖv˔ Uo",
  "KOƲN®ñCʄOJEONzACʄO HU¡1oђPHȲyʌɚy˩šyʁɋy|yɭyǘyMƘyĹEyιzOODyMįLy˞ySUNzTƋyHûySOCIETYyNAMEySPECŏyeĸANy",
  "ĎŁTULˀyLABORyREƧSĥyąLySTUDYzUơVISEydĥERPRyƵOURCEycèŐyFĭIVALyƵTySELFyƲCHҶ ђPH ƫSʇsKřERĽǘsSċOLsKOT",
  "OiӿÆ >еqmκqoōppFOqoIFpoǉqoɋpn|aɶNERǄP¦ч њTκȲwǬxɚwɏxšwǉxɋw|wɭqōTYvȲwǬxɚwɏxšȒNGUL ϮpΔpЄpΟpΒpΚpʀp˸p",
  "˔qϪpϭHpѯpѢp˴pϮ ApcΔpcЄpcΟpcΒpcΚpcʀpc˸pc˔qcϪpdϭpdǜĳpdPɖPpdɖiKOƲN®ñCʄĈMKOzJUEUIȒNGUL ˸ UaKOƲNÐìò;Ҷ",
  " ђPHғtɚsɏtšsǉtɋs|sɭsǘsMƘsĹEsιtOODsMįLs˞sSUNtTƋsHûsSOCIETYsNAMEsSPECŏseĸANsĎŁTULˀsLABORsSEĐTsMæse",
  "FEscSUŠBsEXCġĥscPRIsATǘʇsITEMsƵTsCOPYuRƳTsɗsϤsŲs(s'sŹICŚsRELŔONsSTUDYtUơVISEsdĥERPRsƵOURCEscèŐsN",
  "ɞiњЁÏXxɋw|wɭpļTYuȲvǬwɚvɏwšvǉwɋv|vɭqIFTYaԙÓLEˮ;ʝJANUARYzeR FEBRȪŵCHȪAPRILȪMAYȪJUNɌJULYȪAUGUSTȪSEP",
  "TEɪzdR OCTOzdRÄVEMzfR±Cѹ HGhERGiVaLIMIǗ½ABIŰY¦ч Kс ArIrUrErOrKAsIsUȡOrSAsIsUȡOrTAsIsUȡOrNAsIsUȡO",
  "rHAsIsUȡOrMAsIsUȡOrYAsUsOrRAsIsUȡOrWAsIȡOѹ ERAÃMEËIWAhAPAúiRUHUAiNƞiARUhINśUjTIhUONhESUKUUDOiEKA",
  "AhONSUiOMUhKãIȗTTOkORIIhĽONjNMAiIGAjNIIhcKYURhGIRǯAhKIROlGUưUlMEEǤUlWATTOhGUưUnǢhŧUZEIROkƘEiEESU",
  "iORUNAjOPOhSAIŧUjNTIIMUiIɻUiĥIlOhDAASUiESIiORUhǢhNANOiOTTOȐITUhPAASĥOkTUhBAARERUhcPIASUTOjcKUkOh",
  "BIRUhHUñDDOjIITOhBUSSYERUhHUƱiEKUTAARUhPESOjNIHIhŋUTUhƠSUjEZIhBEįhΜOhcBORUhHONhPONDOhHOORUkNhųŧO",
  "kRUjHŇRUKUjNSYONicIŧjRIlBAARUiEGAlǢjEǤUhYAADOkRUiUANhƹǤUȗiUPIIjUBURUiEMUjNTOGENhWATTOaԙÓLEˮ; FOѥ",
  "ZĩzѥƔzѥʌѥήzѥ˩ѥɍzѥʁѥΥzѥ|zѥɭzѥǘzcѥĠVzѥαEzѥTѐzfѥFOUzeѥFIFzeѥʁeѥΥzdѥ|zdѥɭTzѥTκzѥѲƔzѥѲʌѥѲήzѥѲɏѹ HPAhD",
  "AhAUhĀhOVhPChDMjеDkcCUBhIUhERAÃMEµISEIqSYOUWAqTAISYOUqMEIZIhďPORˀhPA AMPShNAhMU AiAhKAiBhMBhGBhą",
  "hdKhPFhNFhMU FkGiGhKGhHZhcKhcMhcGhcThMU LiLhDLhKLhFMhNMhMU MiMhCMhKMhMMеDhjChjhjKhcMM CUBhhChhhh",
  "KhMϙSpеDhPAhcKhcMhcGhRADkϙSrеDhPShNShMU SiShPVhNVhMU ViVhKVhMVÀGAhPWhNWhMU WiWhKWhMWÀGAhK OHMheM",
  "hAMhBQhCCiDiϙKGiOhDBhGYȐiPhINhKKiM $iThLMiNiOGiXhMB %iILiOLhPHiMiPMiRhSRiVhWBhVϙMhhAaԙÓLEˮ;ʝDAYȲ",
  "ҏǬҏήҏɏҏɍҏǉҏΥҏ|ҏɭҏǘzcR°Y ĠVҏαEҏTѐzfR°Y FOUzeR°Y FIFzeR°Y ʁeR°Y ΥzdR°Y |zdR°Y ɭTҏTκՉƔՉǬՉήՉɏՉɍՉǉՉΥՉ",
  "|ՉɭҏЁҏЁ-Ɣѹ GAL¡6592aHEXAɐʝǛ ĐAʈµûNrƳEPʈ ˞nDIFFICULTY öǛ BEGINNśnYƚHFUL FƑYnWAIʆnĎFůTnǛ©MYnHƏɟTOG",
  "Eʅn%ÒžGndǦADnƞCEnǌNDǎLLnFġOWǄPnGƲTÉSSĬŜnMODĭYnĥHUSIASMnFƑOWśnWORKÆÔE±CAYEDnAPƨACHnɇEMƥʇnBIʆҕnŁCE",
  "nSPLIЇAɶnREʊnINNOCEƁnGƲTÒžGnMƚHФSnGƲT ƧPONĕAƁnǛ ABYSMäιrCɧɟĹEnINFLUEƁnDURˀnREǦATnGƲTÉǾnƨGƵSnDARK",
  "ENɟƌǛϗnǛ³ŽYnƙOϼoeBǐUCnĔšƱCEpĐASEngINnĄAKTHROUGHnčɟTOÀETnGùEɻÕGEʅnPǸɟUPWònƙƵɿnǛ WġnREVOLUʇncǛ¬ULD",
  "RrAROUSɟTHγrKEEƤGÐŕ MџnDEVELOPɬnǛ¿RRYɟųDENnABUNDAƁnǛØNĕERrGĥŭWřrJOYOǷLAKEnDISɸŜndLIMŠTnINNħTRUTH",
  "n% ƧPONĕAƁnAFʄčƦʇnlBEļE¡20992aYI ӜITnXmInPnEʍEoPmATnXmAnPmUOXnOoPmOTnXmOnPmEXȚWUmBIըAʍAoPnUOպnUʍ",
  "UoPoRǿЛYoPoRǿmPՇPnAʍAoPnUOXoOpPԉUʍUoPoRǿЛYoPoRǿmBBӺTqթՔEνԿRρoYpPmNBӺXpEqPoAҳOTpXoOpPԿRρoYpPpRXpR",
  "mHMӺթՔUTpXoUpPpRXpRoYXoYpPpRXpRmMՇPnAʍAoPnUOTpXoOpPԉEXnEnUʍUoPoRǿЛYoPmFIʍIoPnAʍAoPnOXnOoPnUʍUoPo",
  "RǿЛYoPmVIըAʍAoPԉEXoPnUʍUoPoRǿЛYoPoRǿmDՇPnAʍAoPnUOXoOԉEXnEoPnUʍUoPoRǿmTՇPnAʍAoPnUOTpպnUʍUoPoRǿmDD",
  "ӺթՔEνԿRmNDӺXpEoAҳOTpXoOpPoEνԿRmHNӺTqթXpOoOTpXpPoEνoUTmNՇPnAXnAoPnUOպnUʍUoPoRǿmHLӺթXpOqPoOXoOpPoE",
  "νԿRρoYpPpRXpRmLIըAʍAoPnUOTpպnUʍUoPoRǿЛYoPoRǿmGIըAʍAoPnUOTpXoOpPԉEʍEoPnUʍUoPoRǿmKՇPnAʍAoPnUOXoOpP",
  "ԉEʍEoPnUʍUoPoRǿmGGITpXoIpEթTqՔҡԿRmMGIEXpEoAҳUOՔEνԿRmHXӺTqթTqՔEνmNGIEթTqXpOoOTpXoOpPoEνmHIToEXoEn",
  "AʍAoPnUOTpպmWAʍAoPnUOXoOpPnOXnOoPnEXnEoPmZՇPnAʍAoPnUOպnUʍUoPoRǿЛYoPoRǿmCIըAʍAoPnUOպnUʍUoPoRǿЛYoP",
  "oRǿmZZӺTqXpEqPoAҳOXoOpPoEνoUXoUpPpRXpRρoYpPpRXpRmNZӺթXpOoOXpPoEXoEoUXoUpPpRXpRρoYpPpRXpRmSՇPnAʍA",
  "oPnUOպnUʍUoPoRǿЛYoPoRǿnSӺXpEqPoAҳOTpXoOpPoEνoUTpXoUpPρoYpPpRXpRmZHAҳUOՔҡԿRρoYpPpRXpRmĈҳUOTqՔҡoUX",
  "oUpPpRXpRρoYpPpRXpRmƼXoAoUOXpOoOTpXoOpPoҡԿRρoYpPpRXpRmNRAҳOXoOpPoҡԿRρoYpPpRXpRmǂҳUOՔҡԿRρoYpPpRXp",
  "RmRAʍAoPnUOպnUʍUoPoRǿЛYoPoRǿmJIըUOTpXoOpPԉUʍUoPoRǿЛYoPoRǿmQIըUOTpXoOpPԉUʍUoPoRǿЛYoPoRǿmJJӺTqXpEq",
  "PoUOՔUTpXoUpPpRXpRρoYpPmNJӺTqXpEqPoUOXpOoOTpXoOpPoUXoUpPpRXpRρoYpPpRXpRnYӺTqXpEqPoUOՔUTpXoUpPmXI",
  "ըUOXoOԉYʍYoPoRǿmYIըUOTpXoOpPԉUʍUoPoRǿЛYoPoRǿ¡3dRADɝ QOTlLIlKITlƊPlCYPlSSIlGGOPmEPlMIlHXITlLYRlBB",
  "UTlMOPlYOlPUTlHXUOlTATlGAlZUPlCYTlDDURlcBlGGUOlNYOPlTUlOPlJJUTlZOTlPYTlHMOlYITlVURlSHYlVEPlZAlJO",
  "lNZUPlJJYlGOTlJJIElWOlDUlǆRlLIElCYmUOPmIPlHXOPlǂTlZURlǅPlĉlZZIETlNBIElKE¡9"]

end RepoAtlas.CharName
