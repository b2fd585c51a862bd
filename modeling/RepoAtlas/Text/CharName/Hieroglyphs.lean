/-!
# Names of characters: hieroglyphs

Cuneiform signs, hieroglyphs, Bamum and Pahawh Hmong. The layout is that of
`CharName.tables`.
-/

namespace RepoAtlas.CharName

def hieroglyphs : List String := [
  "aCUNEIɎ¥An/AoÿoGAѕoHAoŔoŨARʠoMǸoSAGn2nBo/ô2pDUN3ʠpGALrѕpHApҥqžpŨABpǃSHpUϚUϚUoʠo2p/BåGqGAѕqMEϚENq",
  "ǂ3qǓ4nDnKo/EƷ2pǄTAϚGŞnLo/ALpDIM2pGŞpHApKAD3qIpǃpǸoANoEPHnŵq/ǃnNoϙANpЂTŗSpΛNAGA ƙOSɟêΛNAGAzϾDoǃnƤ",
  "nRADq/ŧoKABnƽ2oHp ZIDAʦqgKABqɳ ô TUG2ϙTUG2 TUG2ϙTUG2ÇPzɳ ôziɳ ôӪôϙô p2pGABmBAoDoG3oŅ2oLpϙBALpAGo",
  "RpA2ț/ApĽpҥnUoϙBU ABxUNpъG«oLUGrϙBULUGoRp2mDAoGp KIǇ5/AϚMôyŵxBåGyIxGAzϚMôyIzR2yUDxHAxIRzϚLUxKAKx",
  "LAyUzϚMô2zMxNExƜϚƜxSIxǓ4xU2ϚGIR2ySHoMoRpA3q4țBoMp/ǃp2oNp¹SKäUʠ²SHocnUoϙDUpGUNUpǃǄGoBp/ī2p2oGpUDo",
  "HoNp3qʠvʠp4oR2mEn/ƜnϙE ƈϙƈn2o/AϚHAϚDApĽpMIpƽqHEpUnDINnGIRnLnNo/GAN2tʦpMEoӪENphƙOpϾDnRENoIN2nSH2n",
  "ZENq/AsϚLALzcAL/LsNrÿrDUN3ʠzUʠrHAtʠrfŔrŤKALxеDsU3rLAtL/LALsIsUrU2sDmGAoʠo2p/AϚDAϚHAxcxŔrB2ʦϚTABr",
  "NrSHt2ϚGALqÿsRϚRArURtϚRAqDArIsM/ǃrUBqELsϚLArNs/GAѕqjsRrIs4tϚAsR2ϚSUȠϚLUϚī2sLtϚLArIϚLIrUB2qҥrSHϚH",
  "UϚôqKAKsSKALrIDtϚLALrU3ϚANqLAqMEϚENrIqƈtϙƈqPAqƽsRrHEtϚǫsIDrUMqǓ4qUrDsϚDUpϙGA2oBAqӪGABAoDpϙGAD Ԫo",
  "Lp GADϙGAD ԪpAMoMoNp2qʦrɳ GAN2rfъGoRp3oǂNnīTINt/ŧț/EpUoӪGIo4pϙGI4qeъGoDIMoR2qʠp3q/AϚŔrGAѕrŔrdLUϚ",
  "rPAoƽpHqӪGŞq/ÿrǓ4qʦnUoӪGUo2p/KAKt/ҥqƈqƽϚTUG2pʠoDp/AϚŧqdpϙGUD LUGALoLoMp/ǃoRp7pUNqSHmHAoʦpcGUoLț/",
  "ôs2pÿpDŞpGADpKINpƈpǃpUnUoB2q/ANrHALrcŤKrLŞrUDoL2mIn AnBnDIMqϙIDIM«RzMеDnGoIp²BqRIqɳ ŔÎIRϙǄR UDϙU",
  "DqGUNUnLo/GAѕo2nMo/Ǔ4oӪIMphƙOpϾDoINnNnRnSHmKAo/AqDrϚKU3qSH2pÿrŨrRqIpEƷ2qSH2pGArLrѕrRsϚǂ3ϚAqIrR2r",
  "SHϚSARuъG GŞqUrR7pŔqMpKAKqIrDpLIqUpMErϚDUxGIxTEqIrϚƈUZpNEqUNpPIpRUpSArRȠrErIDrUqIGqUHURpTARpUq2q",
  "DqMUM/PAqSHpZIo2pӪKA2oBoD2p3p4p5qϙKAD5oKp/ҥoLp/ÿpӪKALoM2p4oSKALs»GAB/UϙŨAB/Utuɳ¹SKänī2ț/ÿpUqDoDo",
  "NoƽpHpIM5sϙKIǇ5nUoϙHI/ô2 KUϙHI/ô2o3o4pԵo7oLpʠoNoRp ƙOSɟŧoǆ2nWU318mLAoGABr/AtϚDAϚHAzĽzLALtLtNtSH ",
  "ZIDAʦsÿtIsDARsENsGAuRtUDvϚGUDsHAuLtI/ƈsҥtMuϚHAz LUsKIuNtU3uLvϚHIϚAsŨABtŞtUuLsMEuϚENtǸsNEsǃϚSUMuŠ",
  "ϚGŞϚEƷ2zLǷGŞʦuU2wϚǆ2tUMsTAGuK4tEϚAϚSUϚNAsUtϚAzUϚUt2ϚôtDtSHrеDqRr/ǃvϚSUMrʠwϙŨARʠÎEoHǆoLp/LALoMp/ŧ",
  "tϚRUțLoMMU2oSHnUo/ÿo2p/ALqÿqī2uʦqgGANqHI/ÿqIMqKAD2t3uϚôrIqLAϚôsGABqMEϚENqNErUqSIϚôsK2ϚBUqTUG2pʦq",
  "ъG LU2qiƙOqϾDrHīIGo3oGALrϙLUGALtgPPOSśsǃǄGoHoLoMpϙLUMy ԪmMAo/Ǔ4oʠo2oHoRoSHq2nEoSțNnUoϙMUoGpʠoNǑo",
  "RGU2oSHq/ArŧrZAqϙMǸzH/AϚNArъGÂSHq3r/AtϚDIscrʠmNAo2oGAq¸ǻǗq/ǆʦq ƙOSɟNAGAqRoM NUǠLUoMp2nEo/ApUDoÎī",
  "IGț/Eo2oMp/GAѕshRϚGAoNDA2s/ANuSHwϚôtGUDtMEϚGAѕtNEuUNtǃwϚA¨zǷôzgǷôÈtjU2ucoSAGnUo11oNp»Ľ/ĽwMôwƽzϙƈ",
  "»Ľ/ƽwǸqǘUqɳ ƈqeъGzƈ»ĽϙŨARpUZr AB2/ôGABwBIwDUGwGUDwҥwKAD3wLAwNEwSILA3wU2sKIǇ5/BIzBI UmPAoDoNoPnī2",
  "ț/AqBpBIqUpEpIqBpUq2oӪPIoRIGr/KALsUDsZAr ƙOSɟPIRIGmRAoBnInUmSAoG NUǠLUoGp/AqDUsBȠqKAKrURqLUMqMIq",
  "ƈqƽrHIDqTABqU2rBrMrRrSHpϙSAGqGUNUoLp»GAB/ô2ȟA2oRnHAp3q/ArÿrGŞrNErǆ2rǫrUsϚAp6pB6pR2oEp HUqɳÎE GAD",
  "ϙGAD ԪznTABϙTABpG9pNpSHr2rũoIDq/ArIMpMq/ArBALsULUGrDINrĽrŔuʠrKǸU2rLULrMUGrƽpNIGpRqʦrɳÎIR«RϙBURpT",
  "AoUpϙӑǆp2pBURțʠoGp4qϙSIG4ÎU2oK2oLA3nUoϙSUoDp2oHURoMpôoRp9mTAo Ҝo/HIpMIoʠoBpϙTAB NIϙNI²SHϙDŞqϾDoG",
  "p/BIqGUDqǃsUqTUG2qUDoK4oRnEoʠțʦoLoRp/Ǔ4pϙTIRy GADϙGAD ԪnUoG2oKoMoRpϙǫ ZAϙZAmUn GUDoU Uoɳ UÇϙPA Ԫ",
  "vSURϙSURvU ӛɳ U ѦDn2nBnDo KǸU2o/ÿpMIpUϚUϚUzLǷUʠofpǃǄGw/ÿoUGnMo/ŨABpMEϚDApǂ3pUoĂoUMq/ŤKALrPAnNoʠn",
  "RoӪURpǃǄGo2p/AϚHAxNArLȠqƈqU2sϚôyBIȝIp3oUp/ArSHGABqĀqDUNqGAsLsѕsRrUȠqŔrMrSHqKIqLUMqžqPAqǃrIG4qTUq",
  "UϚGUDrDrRǯpcr/UnSHp/AqKUsRqǓ4pXp2pUMXnTUKInZ3p/ŤKALoUmZAoʦpϾD/ŧoGoMXnE2țϙZIo3oBp¹BAʦoGoZ2nUo5p/A",
  "oBURoMmţ EũITEmAB/ƈo2/Anŵ/KUGmDAG KIǇ5/U2ϚMôp3nŞϚǆnUB/ǃmEZEN/GUDrǃmGA2/êΛKAKϚArSH2nE22nIGmHǸmKA/",
  "ANǃqSH3pGŞqUDpHI/ô2pLUMpPApǆLpTUpUR2mŨAB/GInU2ÎīIG/ÿp/ī2ϚLALqǆmMīnǸ3/ZAmNA4nINp9pDA2/BALtGInU11 ",
  "ҮɭTY±ɑSmPī2 ҜnIR2mSAG/ҥmTI2mUM/MEn U¡102kNUżő&ȶ ôveɚueɏvešueǉveɋue|ueɭucЂDIufɏvfšufǉvfɋuf|ufɭuɏ ",
  "Uvcšucǉvcɋuc|ucɭuɰGī2ugǬvgɚugɏvgšugǉvgɋug|ugɭuɰGīUugǬvgɚugɏvgšuʋǂR2vgɚzȴR2ԵuɏȴR2vgšugǉvgɋug|ugɭu",
  "ɰǂRUugǬvgɚzȴRUԵuɏȴRUvgšuǂR2/GäΛDŞz/GäΛžuɰBURUufǬvfɚz«RUԵuɏ«RUvfšuήԵ ī16zԵ ī21uɏԵ½MMUzѶʞ½MMU4zѶʞ½",
  "MMU AzѶʞ½MMU BuǉԵ ô9vɋԵ Iž3zԵ Iž AzԵ Iž Bu|Ե USSUzŐTʞ USSU3uɭԵ ILIMMUzѶʞ ILIMMU3zѶʞ ILIMMU4zѶʞ I",
  "LIMMU AuʋôʦvjɚujɏvjšujǉuɰBAN2ufǬvfɚuf˩BAN2Եvš BAN2zBAN2ԵuNŔDAžzAīuɰīE3ugǬuɰǜRD²SHufӞSugɍÏXTHuɰǜR",
  "DԵ AupӞSuɰ|H ôyeѤvLD ASSYRɜɰǉTHzSSYRɜɰѤvƂѤ GURyeɒuEũIǖɰǜRDzǖӞSzǖļTYzcǖFIFuɏ UԵvpšupǉvpɋup|upɭ¡1k",
  "ԯ& ɯASSYRɜʏШRy< ˕ygĖĿALzfIAĿäǧzfIAĿäɹ¡11k& AB/ƈʦpǆ2nD/ī2mÿ/DŞʦoŅ2/AB2tNItZAnUϙBU/NA2mDA/Ǔ4oG/ŧnI",
  "M/ŔqU U Up2/UDnUG/ANǃrSHt ö(qDINrUNqEƷ2qGArIsR2ʠsSHȠrIqҥqŤKALrURsǆ2wϚŤKALqLAK-020sMt/ŧrUHϚGŞqcMA",
  "rESrIqNIqPIqǃrIʠmE2/ŧpƜnƷ2 XnSH2Ӫī2nZĢǃǄG/ôzHIzҥzLAzLALzMEzMESzSUqdmGA2/BAŅ2qDIMʠrfUG/ŔuŤKALqĨNq",
  "GAsRϚDIȩȠϚAqKǸU2ϚŤKALqũt/ŧrUHqMǸqNEsϚE2yGIqǄMqZIZ2oBA ҮɭTY±ɑSnīTIN/UnŞ/GŞӪGŞnU2/ҥoDϚGŞ/Ǔ4mHAʦʠnI",
  "/ôϙHI/ômKA/BUpKApU U UqRmŨAB/ZUϙZUoK-003r21s5r30r50s1r62r79ϙLAK-079ʠr80s1ϙLAK-081r92q130r42q210s",
  "9r20s5s8r38r65s6q343s7s8r83s4r90q441s9t/GUuŔuƜϚLU3zhLǷƜ PuU2ϚBAr50s7r70r83r90s2s3s5q550q608r17t/",
  "ôuÿuDUN3ʠʠuKU3uLAuTARvEuU2vDvRǯr36r48t/DUBuGAuŔxʠuNIuƜϚƜϚLU3uǃSHϚKIuUDvRǯq724r49nU2ʠ/ôpc/DIȠLqƜt",
  "ϚƜϚLU3qǓ4mMIϚZA7nǸϙMǸ/GAzH/KAKmNřA2/DIMʠtGŞuULtHItKī2tLAK-050tMôtƜϚƜtUuϚUuRǯmSAGʠ/HAp/ENqǃ ö(qǓ4",
  "nHA6ʦoEϙǃqΛHUB2vNAM2vSARoU2ϚDUG/NIwE2/ANnI/Ǔ4mǓ4ϚSAGnUM/GAѕqЂDŞmUR2¸ǻǗp/UDoU/Dñ3qLAK-668rU3mZA7n",
  "UϙZUϚSARo5/ЂDŞʦ¡2636bYƨ-žOê& CM001t2t4ӥ9s10t1t2uBt3t5t7t9s21t3t4ӥ9s30t3t4ӥ9s40t1t4t6t7t9s5ӆt5t6t",
  "8t9s6ӆt6t7t8t9s7ӆt5uBt6t8t9s8շ90t1t2t4ӥ9r10ӆt5t7t8t9s10t2t4r301t2¡13aEGYPTɜHIĩGLYPH AʵМȣ6ʓѿ1ҙʹx6",
  "x7Ҁ2ղw3ʶȣ3xԓw40ȣ1x2yAς4x5Ө9w5ղw6ղw70uBʵМӨ9uCʵʓyCМx6ѿ1Ӵԓw2ҙ4uDʵԊxʺw1ղw2ʶԊҀ30xʷx3xʹx6ѿ4ҙʸȣ7xʺw50ҁD",
  "yEyFyGyHyIx1x2ȣ3xʹx6ѿ6ʶԊҁDyEyFyGyHuEʵԊxʺyAw1ҙʸȣ7Ҁ2Ӵʸx7xʺw3ҙ4ȣ6x7x8uF00ʷМx6ѿ1ʶςԓw20xʷМx6ѿ30xʷԊȣʺw",
  "4ʶМȣ6ȣ7Ҁ50x1ʓyCx2x3uGʵМx6ȣ7ʓx8x9w10xʷМx6ѿ2ӴʸyAѿ3ҙʸȣ7Ҁ4ʶς4x5Ө9w5ҙ4uHʵМx6ȣ7x8uIʵМӨ9yAw10ȣʷМuKʵԊx8u",
  "Lʵȣ3xʸȣ7x8uM001ʓx2ςԓw10ȣ1x2ҁDyEyFyGyHМȣ6ȣ7Ҁ2ʶȣ3xʹx6x7xʺw30xʷx3ʓxԓw4Ӵ4uNʵМx6ѿ1ʶԊx8ʓx9w2ʶМӨ9w3ʶςʹȣ",
  "6x7Ҁ4ʶvL00ӈzAӧ1ӇНzAσ20vU00ӈӧ10Ȧ1Ȧ2y3y4Нy8Ȧ9x20y1y2zAuO00ʷМȣ6ҁDyEyFѿ10ʓyCx1x2x3xԓyAw2ӴʹӨ9yAw30ȣ1x",
  "2ςʸҁDѿ4ղw50ʓx1uP00ʷςԓw10x1uQʵԊuRʵȣ3ʓxԓw1ӴʸyAѿ2ղuSʵȣ3xʸyAѿ1ҙ4ʓx5x6x7Ҁ2ҙʸʓѿ3ʶМӨ9w4ҙʸuTʵςʸx7ȣʺyAw10",
  "xʷМx6yAѿ2ղw3ʶyAςʸuUʵМx6ʓѿ1ղw2ʶςԓyAw3ʶȣ3xԓw4ʶuV001ҁDyEyFyGyHyIx2yAԊʓx8x9w10x1ʓyCx2ʓМx6ѿ20ҁDyEyFyG",
  "yHyIyJyKyLx1x2ςʸx7xʺyAw30ȣʷςʸx7Ҁ40yAuWʵςԓyAw1Ӵʹx6x7ȣʺw2ҙʹuXʵx3x4ʓx5x6ȣ7x8yAuY00ʷԊx8uZʵҁDx3ʓxʹӨ9w",
  "1ʶМҁDyEyFyGyHyIx6ҁDyEyFyGyHuAA00ӈy6y7zAzBσ1չ2չ30y1y2¡1u< ˹Ruh[uINSERT öǣÐózgT öϢzT öǣ ģzeT öϢuϸY",
  " ΑEuBEGŘSEGɬuiģ¡4039aëTƐêHIĩGLYPH A00ӈӧ10Ȧӈӧ2Ӈy5y6Ȧ7σ3ճzAx40y1Ȧ2y3y4y5Ȧ6zAzBy7σ5չ6Ӈy5y6zAzBzCy7σ",
  "7չ8չ9ӇНȦ8Ȧ9w100Ȧ1Ȧ2Ȧ3y4zAzBzCy5zAzBy6y7zAzBzCσ10zAzByӈzAӧ2Ӈy5zAӧ3Ӈy5zAӧ4չ5չ6չ7չ8չ9ճw200y1y2zAzBy",
  "3y4НȦ8y9zAx1Ӈy5Ȧ6Ȧ7σ2ӇНzAσ3չ4չ5չ6ӇНzAσ7չ8ճzAx9ӇzAНy8y9zAw30ճzAx1չ2ճzAx30y1y2AzBzCy3y4y5y6zAzBzCy",
  "7σ4չ5ճzAx6ӇzAНy8Ȧ9x70y1Ȧ2y3y4Нσ80y1Ȧ2y3ÊȳRIȦ4y5y6Ȧ7σ90y1y2y3 |y4Нy8y9w40չ10 BEGŘLOGΖ]zkA ģyӈӧ2չ3",
  "չ4չ50Ȧӈy6y7zAσ6չ7չ8չ9ӇНw50ӈӧ1չ2չ30¡8633ȆMUM!ƢSE-A NGKUE MĺodGBIEE oPƓMĺ PIPAEMGBIĞPAEŸoNAA MĺoǆE",
  "NǆĲTŠ MĺogNZoɾDAÇ NJIoPƓPA NJI PIPAEMGBIĞPIPAEŸȞEMBGBIĝTU¿EŸȟîUȞEMVĴqNSǭpVɊƄMocSEUNYoNTOQƠoKEUKĳ",
  "NDAoNKřIoSUUȟKUENZEǱLAPAQpET KUToNTAP MFAAȞEKEUPoPôAEocľǭRocPAMSHoſ ƅɊToNZUNÀUToU YUQÃEocľǭľUoNT",
  "AP NTAAoǈAocMGBApEUNJOMNDEUQpcOOMPoŢAoPA¼ERAEWAokNDoPĲMAEMKƠoNIKAoPUPoTǭPoeLoSONJAMoTĳEUWENȞEƊoť",
  "ocNDAîGEUAoKUOQoMOOMĳoǆMoLOMMAEoĹIoROMoKPOQocSȞP PIEĲǄRAEoNTAPoǅQ NǆT YǱƊTÁNGKɊQoPAñEofNKoUNKNOW",
  "NȟGENȞESIoNJAMoŸƊoNYĲTɊNoSOToPAAMoNǄĝMAEMoƊoKAQoNǂoVĝLUoNENpAQocMBmB NǆĲTU¿EMGBIĝdSpET TUoLOM NT",
  "EǱŸ¿ĠEoKIEEMoYEURAEodŸAoKAMoƟǄoYAFU¼ERAEWAoũ NǆT ƉMoNǟEÎEUOQpDU NJAAoľUľǭMoPIToTU NSIĝǃT NJAQrǭQ",
  "TUoMĺÓǭQpBIT ŸAťoƊ NTEǱKEUPUQoľUľNoKEUYĴoLAëEoƝǱcVEȟKřI MVOPqGEU MBUoWǭToSAKɊoTAAMoMEUQȟGUOQuϖoM",
  "FIYAQoSUEoMBEURIpONǟENoƉEMAEoPǲAAMoMĳ ƅEĲFĴoMBUOQoFĝKɊMȞ NJɊNAtUQAoLĲƅAAMpSENȞoKIQȟOMmC NGKUE¿EŸ",
  "pZAoYǱWîKUOQȟGENpDɊREEpGKAQoGŅAEoMBEEKEĲGBAYIoƊR MKɵQÀUNpTU MBIToMBEǱPIRIEENoNDOMBUoŸA¬BBá-ǦEoKE",
  "ǸɊPoGHAPoKEUKAQoYUÂOMAEoNZEǱMBUEoNSɊNoMBIToYEUQoKɵQpAAoSĴoNDIDAoTAôAEoNJUEQoTŠ YUEoSǭTȟGǭN ƉMoVĴ",
  "oNANƾAQȞºǭRIoNTAApGGUONoLAPoMBIRIEENpGBASAQoNTEǲBAoTĳĴȟGǱFUEoNDĳpSAȠQoBǲoVɊƠoɪAEoRUoNJAEMoũoTITǭ",
  "PoNSUOT NGOMpJEEĝťȟGUȞESIpBǭMoLUoKUToNJAMpGOMoWUPȟGUEETpSOMpǘoKUOP NKAñEoNSUNpDAMȞ NSIĝYAAoNDAPo",
  "ǆEQpETĺoMBIpAEŸpBAƊoKEUSĴodMBoKEǱŸA PICťoYUWOQoNJĴoMIEEpǭoǄQoKĢLAWsFATIGUEȟAQpcoLIQoƤpENoTETmD M",
  "BUOoWAPoNJIoMĺoNJIĝdLoNJĳpǃEpGGAéEpYAMoWǭNȟKUNoǃEȟţoKɊTMEUNoTĳoǃǭoNJAPoSUEoťoYAEMMAEoKUOMoSAPoMF",
  "ĳoNDĴȞLEERIpĳoSɊQoYENoNJɊMoKEUOT MBǭȟKEURIoTUoGHAAȟKYĝFEUFɊToNDĝMGBOFǱLɊPoNDONoſIpGBEUNoPUUToMGB",
  "IEEpFOoLǱNSIEEPoŸAoKWAĲcNYoTɊNoSOToYUWOQoKEǱRAEMoTEEĝNGKɊQoMFɊoNSIEĲKEUPoPIPpĳAEoNYUEoLĲƅAAMoMFI",
  "ĝƅWAENoYUOMoƜoYUOPoNDAMpTEǱSǭoKUNȟGĴqKIĝTUOToMEUNoKUQoNSǱTEUNȞENJĲƅAPoLEǱƅUOMpǆTpJUEQoľǭoKUoRĢƏo",
  "TAEpOQoƊoRIIoLEEĝeMoMoSUUoMUoǄIqĴoKYĝNUoǆoNTĝcPoNIoǅQoPUQoMVOPoLOQoRĢMUCHoTIoNTUUoŸA ΥoSAQoFAAmE",
  " NDAPoTƘoMBEǱLAPoVOMoLƘoPAAoSOMoRAQoNǆOPpDUNoPǭoTAMȟKAoKPĴoWUOoSĝƅɊToPAAMoTOOoKUOPoLOMoNǄEEpGOPȞ",
  "EMȟKĴqOQpǆEoRIMGBAoNJĴoƟMoSAAȟGURAEoMGBAoľUXȟKɊMpJAEMLIȞPoLOOTȟGEEEEpDIQoTAĢNTEǱǀoPǱNDAA SOFTNĬp",
  "GGǭǂE ƉMoYIĝľUNoTǭodYEoPOoTUMAEocKEUoSǭNoTɊQoVɊoWĴoLAAMoPUoTAAQoGHAéEȟEURĳoǃǭQoMGBENpBĝNZAQpKOMo",
  "GBĲTǱKUĲYAPoƊ CLEûRoYIToMFEUQoNĖQoPIEEQocYUoLɊMoFUEoGBĴȟKUPoťȞEȟKAAMIoľToFAoNTǱPĳoYEǱƅɊpYI фpZUQ",
  "oPƘoMIĝFUĲNAEocMUodľoFU IoMVIoPUAQȟKǱKUToPIĲNTAPoYɊTȟGUPoPA PEOƦoFU¬LLpOMoNJĝAoTOQoOoIoLAQoPAÈUƯ",
  "oTAAqQoNDAA MY·USEoǄQoYĴȟǭoYǭNpOQ SWIMžGsCɳpUQqNoKĴodPoNJEE EPOCHoPUEocWoFĝcVoLUoMIoRĴpAEȟǭTqAoǅ",
  "rQoFUËŹYoNAoPIoLOQoKOoŻpAqQoTEUoKIoſoǘoFAQoGHOMmF¹oUoKUoĝcRoTAEoƊoLAoRIIqĝcMĝTAAocNDpJAEMoMoSUUp",
  "HIIpIpĴoKYEEpĲNǭpUpJǭoYOQoǆoYAoNǂoPĴoNTĝWUEoƟoRUoNIoRĴoKENocNGKWAqGAoǅoPǭoFOMoWAoLIpOQoKOoMBENoc",
  "RȞpOpBAAoTĲKPAoSAŸoVUEQ¡7aMRO!TAeNGIeYOeMIMeBAeDAeAeƣeŦIeHAOeDAIeCHUeKEAAEeOLeMAEMeNINePAeOOeOeR",
  "OeǄeǛAeceWAeEeKOeŪfAeHAIeRIeTEK¡1dϋfƔfǬgɚfɏgšfǉgɋf|fɭ¡4e˚eȌaǔGSA!OZiCiQiXhAZiCiQiXhVZiCiQiXhEZiC",
  "iQiXhIZiCiQiXhUZiCiQiXhAWZjCjQjXhUIZjCjQjXhϨNGh˿UEXhϺUEZnAWXhUECjZjQjXiIUZkCkQkXhMZiCiQiXhK˃GAhc",
  "NhSAhYAhWAhPAhƉhƢhBAhMAhNAȐhLAhHTAhchDAhRAhNHAhcShCAhǩhGHAhHǪhǚhXAhFAhDHAhcChZA¡1gϋiƔiǬjɚiɏjšiǉj",
  "ɋi|iɭ¡6Ȇǋ VAH!ENNIkKAkSEkFAkMBEkYIEkGAHkDHIIkKPAHkJOkHWAHkWAkZOkGBUkDOkCEkUWUkTOkBAkVUkYEINkPAkW",
  "AēkAkOlOkUkEEȘI¡2j Ӷ˵ʉufŲufMIDuiŲ-ufɗ-Ųkӏ¡10aPAHAWH HſGϝºEBwVuIBvVuAUBwVuUBvVuEBvVuAIBwVuOOBwVuA",
  "WBwVuUABwVuOBvVuIABwVuABvVuWBvVuAABwVnӷVAUxcNTSxcLxcHxcNLxcRxcNKxcQHxcYxcHLxcMxcCHxeNxcHNxcPLHxd",
  "NTycxcxcXxcCm] CIM TUBsSOsKEStHAVsSUAMsHOMsǕMm¥VOSÔOMuǂB CEEBpCIM®EEMpVOSÔIABtFEEMpXYEEM NTXIVvƶ",
  "vTOVvFAIBpVOS SEEVpMEEJÑABpVOS NRUApIB YAMpXAUSpCIM TSOVÌG¡10nʻoօ¡1nӿSuёSucǘ ѰuŽLŜSuiё uhǘ BvhR¡",
  "1n& VOS LUBpXYOOpHLIpdǜRD-ǌGE pZWJÔAJpHNUBpNQIGpXIABpNTUJpAVpTXŉJ CEEVpMEEJ TSEEBpǕpLOSpMUSpCIM´",
  "IS LǷNTOG NTOGtCUAM TǅOJtTXWVx®WVtPUB°WBtNƵÕS¡5nCŪ¥TǃEJuYEEGuLISvAUJuXYOOJuKOOuHAWJuMUASuǝJvSABu",
  "cPHudKuŃuVAJucFucYuTSWBuKWMuVWJ¡688aŹEFAIDƷ£MoSoVoWoATIUoZoKPoPoToGoFoIoKoAoJoEoBoCoUoYUoLoQoHPo",
  "NYoXoDoOEoNoRoOoAIoYm%!MoSoVoWoATIUoZoKPoPoToGoFoIoKoAoJoEoBoCoUoYUoLoQoHPoNYoXoDoOEoNoRoOoAIoYm",
  "ʻnƔnǬoɚnɏošnǉoɋn|nɭmӿtcĠVtαEuѐtfFOUueIFteǉueɋtd|tdɭTm?ɰӵɎnpǬopɚm˖mӏl; AIVAl EμϠOH¡101bIAO!PAfBAf",
  "YIÇfƥfMˁқMAfFAfVAgFAfTAfDAfYI ǪjAfcTfēfNˁYI ƆfcқfcNȐfLAgYAȏhYAfTLHAfdDfTLHYAfeDfKAfGAfYI¹fQAgGAf",
  "cNȐfқƄfHAfXAfGHAȐfTǋfDZZAfƉȐfcTSfcDZfcYI TSicDZfcREɎěTSfdgSAfZHAgcSfǩfDZAfYI ǩfcfZAgSAgZAhSAfқZZ",
  "AfZZYAhcSfWAfAHfHHAfBRIfSYIfcDZfTEgSEfRTE¡4e¥ӷMODIFIħĀe!NAƽIZˀef¥ASPIRhREɎěVOICśqASPIRˀfӡoAoHHoN",
  "pGnOoOnWOnWnEoNpGnOEYțApNqGoOoEoIoUȟnUoApNqGoUoEIȟnYoInAEpEnERRndΠěnERncΠěnAInEInAUnOUnNoGnUOGnY",
  "UInOGoERnVWnIGnEAnŜGnUI¡7fʉ 'kǣ 'j,j@e!ʉ-2k3k4k5k6k7k8fREɎěʉ-1t2t4t5t6t8¡64aǔGUT IǙϡalNǸUaɯĊNEƿɘ",
  "]mIǙϡaKHŠN¤ѩFŕER¡11aVIETNAMEƿӵƲDś]¬zś] NHAY¡6158aǔGUT¯MPƔNT-001t2t3t4ӥ9s1շ2շ3շ4շ5շ6շ7շ8շ9ӆӥ9r10և",
  "t8t9r20ևt8t9r30ևt8t9r40ևt8t9r50ևt8t9r60ևt8t9r70շ1շ2շ3շ4շ5շ6ӆt5t6t7t8¡9456aKс!žNêʉ-2v3v4v5¡1v7v8q",
  "NAƽIZěʉ-1zʧ-2zʧ-3zʧ-4zʧ-5¡1zʧ-7zʧ-8¡1jқEaҤ!қYEbĥAIGë!A-1n2n3nWOlI-1n2n3n4lU-1n2n3n4n5lE-2n3n4n5n",
  "6lO-1n2n3lKAՍÞo10p1oKEmIՍ8mUԷ7mEӲo6mO-1o2o3oKIlSAՍ8mIӲo6mUՍ8mEӲmOԷ7lTA-1o2o3o4mIԷ7mU-1o2o3ȝTOmEՍ",
  "ÞmOԷRAlNAՍÞmIՍTEmU-1o2o3mEԷKOmOӲșՍÞo10p1mIԷ7mU-1o2o3mEԷ7mOՍ8lMAԷ7mIԷ7mU-1o2o3o4mE-1o2ȞmOӲo6lYAӲo",
  "YOmU-1o2o3o4mOӲo6lRA-1o2o3o4mIԷ7mUӲo6mE-1o2o3o4mOӲo6lWAӲmIӲmE-1o2o3o4mOԷ7lN-MU-MO-1t2bIRAGë!қWUa",
  "Kс!қYIsErWU¡45aҤ!%ÙȚO¡17aKс!%ÙȚOlN¡2712aDUPLOȀ!HjXjPjTjFjKjLjBjDjVjGjRjP NjD SjF NjK MjR SjTHjSL",
  "OêDHjcjKKjSLOêJjHLjLHjRHjMjNjJjSjM NjN MjcJjS JjMȷjeNjeJoSЬ)ABOVEjSȷo@jM SjcNjcJjcSjcM NjcN MjeJ",
  "jcS JjJ SȷlNm SjS Tm RlPm RjT SlR SjWkHk RjS NlMjK R SjeGjS Km RjAjSLOêOWjOAjOjAOUjIjEjIEjϺIjUIj",
  "EEjSLOêEHjROŴɜIjSLOêEEj˿IjYEjUjEUjXWjU Nj˿UjcROŴŐjUHjSLOêUjOOHkWkUjWAkOkIkEIkOWjNAƽ UpOpIpAjơNŘA",
  "NrMjSLOêENpANpONjVOąőM¡5i AFFIX ( [ SEĆTpjMIDpj'phɩ<pjMIDpjɗphAǪĉDyg(-TO-' ycǔGEzAILyE ɘyfIyfǔGĥ",
  "¡3p˵ʼufTɞ u˯uf˿uėuϥuɦuWûu<¡7pɩʼtfTɞ t˯tf˿tėtϥtɦtWût<s*¡2j& O#˗jǜCK!Sьj+]jԯĊNƗ ӏaΧɓʞAT!ϸPqh ɇINUɟ",
  "r^ÐEPrfUP¡4700aZNAŻNY¯MĂś] ŀAZDO NIZKO S KΡMÆ (uuufǩTAufŀAZDO NIZKOukufSREDNEugMALOÉVYSHumufVYSO",
  "KOufMALOÉVYǃ S KHOKHLOMuxuqVYSOKOuŀAZDO NIZKO S KΡMÆ 'uuufǩTAufŀAZDO NIZKOukufSREDNEugMALOÉVYSHu",
  "mufVYSOKOufMALOÉVYǃ S KHOKHLOMuxuqVYSOKOuǩTA S KΡMukMALOÉVYǃuǐANNO¿LOÉVYǃuPOVYǃ S KΡMzHEÐƱNOuVYS",
  "OKO S KΡMuMALOÉVYǃÐƱNOuŀAZDO VYSOKOuZELOuONuRAVNOuTIŦYAudBORZuǯRKAucPODǻTucLOMuKUPNüvACHKAuZEVOK",
  "uSKOBAuRAZSEKAuKRYZHÆ (¡2sÕNäƱGE] MƭHNOzƱGE] SVETLOzgƱGE]ÖEs] ZàRZHKAujDEMĭVENNY udOTSECuPODĈǄEz",
  "ôIEӄuĈSHKAzKAÉLNüuOBLACHKOuSOROCHYAÄZHKAudTOCuDVOETOĊEs AǪĊƃ< OMETsf] ˘DuKRYZHs ϲǢäƱGE¸D˷RjPRIZN",
  "AKÁDIFIħLEVEL-2z¼VEL-3z²Ƴʇ FLIPz KRYZHzÌG¡9jNEUME KRYUKu TIKHYpɵKŰpDVA V®ELNUpKLYUCHpZANOȃKpǏPIǩ",
  "x S OCHKOMpơEVODKAy NEPOǏȀNüpǏPIǩ#SOROCHYAÄZHKApcĉLYUSTpcPALpZAPY÷YApGOLUBĊKªRZYzTIKHYzMƭHNYzSVE",
  "TLYzgǦpVRAKHIYA ƨǌYAydMƭHNydSVETLyiǦydKLYUц ƨSTzdLYUц MƭHNzdLYUц SVETLziLYUцÖEpd+ ZAPYATpӛĉLYUST",
  "KApĕBIǩpŦŽOpĈSHKApPODĈǄEpSKAMEYǩ MƭHNüzdSVETLziǦzdTIKHpDEMĭVENNY KLYUCHpSKAMEYǩ KLYUц SVETLüzdKL",
  "YUĉNEPOǏȀNzdKLYUц TIKHzdDVOEĉLNü ƨSTzdDVOEĉLNü SVETLzdDVOEĉLNü NEPOǏȀNzdDVOEĉLNü KLYUĉVqLOZHIǟy ",
  "S ZAPYúYzZAKRYTOEzS KΡMpKRYZHpROGpFŠpKOBYLApZMEYǩpǌTYAv S ZAPYúYyKΡMyhZAPYúY I yKΡM I ZAPYúYwZAK",
  "RYTüzRYTü S ZAPYúYwSÌGOMyDVUMYA ZAPYATYMIyZAPYúY IÉDĈǄEMpPOLKULIZMYpǌTYA NEPOǏȀNürdRELA ƨSTwdMƭH",
  "ƇIKHwdKΡVwdPOLUΝNyhweNEPOǏȀweKLYUĉΝzeUĉNEPOǏȀweTIŦYA PUTweDVOEĉLzdEĉLNOKΡVzdEĉLNOΝNzdEĉLNü KLYUĉ",
  "VzqEĉLNOΝwdGROMNü#ϻ ZAPYATzvMOΝzdMNzeMOΝzdMOΝNüÚZAPYATzdMOKΡVzdMOKΡVü ΝNpMEĊKv ΝNYwKLYUĉVOYzUĉΝN",
  "YzcUĉNEPOǏȀpǐELAÖYASOGLASNüzeASOΝzeASOǐELpOSOKAu SVETLüviǦviKRYUKOVü wnLYUĉzdц NEPOǏȀNpdǐELA KRY",
  "UKOVzdUKOVü ΝNzdUKOӟNü#ϻ ZAPYATzvUKOӟOΝzdUKOӟNzeUKOӟOΝzdUKOӟOΝNüÚZAPYATzdUKOӟOKΡVzdUKOӟOKΡVü ΝNz",
  "UKOVüÖYASKApKUFISMApOBLAKOpDǯpNEMKApPAUK¡60"]

end RepoAtlas.CharName
