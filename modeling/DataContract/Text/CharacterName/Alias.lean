import DataContract.Text.CharacterName.Basic

/-!
# Names of characters: aliases

Further names of characters: those of the control characters, abbreviations,
and names that correct a mistake in the first one.
-/

namespace DataContract
namespace Text

/-- Names besides the first one of a character. -/
def aliasNames : List NameRun := [
  ⟨0x0000, ["aNULaSTART OF HEADINGcTEXTaEND OF TEXTcTRANSMISSIONaENQUIRYaACKNOWLEDGEaALERT",
    "aBACKSPACEaCHARACTER TABULATIONaEND OF LINEaLINE TABULATIONaFORM FEEDaCARRIAGE RETURN",
    "aLOCKING-SHIFT ONEbZEROaDATA LINK ESCAPEaDEVICE CONTROL ONEcTWOcTHREEcFOUR",
    "aNEGATIVE ACKNOWLEDGEaSYNCHRONOUS IDLEaEND OF TRANSMISSION BLOCKaCANCELaEND OF MEDIUM",
    "aSUBSTITUTEaESCAPEaFILE SEPARATORaGROUP SEPARATORaINFORMATION SEPARATOR TWOcONEaSP"]⟩,
  ⟨0x007F, ["aDELETEaPADDING CHARACTERaHIGH OCTET PRESETaBREAK PERMITTED HEREaNO BREAK HERE",
    "aINDEXaNEXT LINEaSTART OF SELECTED AREAaEND OF SELECTED AREAaCHARACTER TABULATION SET",
    "cWITH JUSTIFICATIONaLINE TABULATION SETaPARTIAL LINE DOWNcBACKWARDaREVERSE INDEX",
    "aSINGLE SHIFT TWOcTHREEaDEVICE CONTROL STRINGaPRIVATE USE ONEcTWOaSET TRANSMIT STATE",
    "aCANCEL CHARACTERaMESSAGE WAITINGaSTART OF GUARDED AREAaEND OF GUARDED AREA",
    "aSTART OF STRINGaSINGLE GRAPHIC CHARACTER INTRODUCERbCHARACTER INTRODUCER",
    "aCONTROL SEQUENCE INTRODUCERaSTRING TERMINATORaOPERATING SYSTEM COMMANDaPRIVACY MESSAGE",
    "aAPPLICATION PROGRAM COMMANDaNBSP"]⟩,
  ⟨0x00AD, ["aSHY"]⟩,
  ⟨0x01A2, ["aLATIN CAPITAL LETTER GHAbSMALL LETTER GHA"]⟩,
  ⟨0x034F, ["aCGJ"]⟩,
  ⟨0x061C, ["aALM"]⟩,
  ⟨0x0709, ["aSYRIAC SUBLINEAR COLON SKEWED LEFT"]⟩,
  ⟨0x0CDE, ["aKANNADA LETTER LLLA"]⟩,
  ⟨0x0E9D, ["aLAO LETTER FO FON"]⟩,
  ⟨0x0E9F, ["aLAO LETTER FO FAY"]⟩,
  ⟨0x0EA3, ["aLAO LETTER RO"]⟩,
  ⟨0x0EA5, ["aLAO LETTER LO"]⟩,
  ⟨0x0FD0, ["aTIBETAN MARK BKA- SHOG GI MGO RGYAN"]⟩,
  ⟨0x11EC, ["aHANGUL JONGSEONG YESIEUNG-KIYEOKcYESIEUNG-SSANGKIYEOKcSSANGYESIEUNG",
    "cYESIEUNG-KHIEUKH"]⟩,
  ⟨0x180B, ["aFVS1aFVS2aFVS3aMVSaFVS4"]⟩,
  ⟨0x200B, ["aZWSPaZWNJaZWJaLRMaRLM"]⟩,
  ⟨0x202A, ["aLREaRLEaPDFaLROaRLOaNNBSP"]⟩,
  ⟨0x205F, ["aMMSPaWJ"]⟩,
  ⟨0x2066, ["aLRIaRLIaFSIaPDI"]⟩,
  ⟨0x2118, ["aWEIERSTRASS ELLIPTIC FUNCTION"]⟩,
  ⟨0x2448, ["aMICR ON US SYMBOLbDASH SYMBOL"]⟩,
  ⟨0x2B7A, ["aLEFTWARDS TRIANGLE-HEADED ARROW WITH DOUBLE VERTICAL STROKE"]⟩,
  ⟨0x2B7C, ["aRIGHTWARDS TRIANGLE-HEADED ARROW WITH DOUBLE VERTICAL STROKE"]⟩,
  ⟨0xA015, ["aYI SYLLABLE ITERATION MARK"]⟩,
  ⟨0xAA6E, ["aMYANMAR LETTER KHAMTI LLA"]⟩,
  ⟨0xFE00, ["aVS1aVS2aVS3aVS4aVS5aVS6aVS7aVS8aVS9aVS10aVS11aVS12aVS13aVS14aVS15aVS16"]⟩,
  ⟨0xFE18, ["aPRESENTATION FORM FOR VERTICAL RIGHT WHITE LENTICULAR BRACKET"]⟩,
  ⟨0xFEFF, ["aBYTE ORDER MARK"]⟩,
  ⟨0x122D4, ["aCUNEIFORM SIGN NU11 TENUdOVER NU11 BUR OVER BUR"]⟩,
  ⟨0x16E56, ["aMEDEFAIDRIN CAPITAL LETTER HdNG"]⟩,
  ⟨0x16E76, ["aMEDEFAIDRIN SMALL LETTER HdNG"]⟩,
  ⟨0x1B001, ["aHENTAIGANA LETTER E-1"]⟩,
  ⟨0x1D0C5, ["aBYZANTINE MUSICAL SYMBOL FTHORA SKLIRON CHROMA VASIS"]⟩,
  ⟨0xE0100, ["aVS17aVS18aVS19aVS20aVS21aVS22aVS23aVS24aVS25aVS26aVS27aVS28aVS29aVS30aVS31aVS32",
    "aVS33aVS34aVS35aVS36aVS37aVS38aVS39aVS40aVS41aVS42aVS43aVS44aVS45aVS46aVS47aVS48aVS49aVS50",
    "aVS51aVS52aVS53aVS54aVS55aVS56aVS57aVS58aVS59aVS60aVS61aVS62aVS63aVS64aVS65aVS66aVS67aVS68",
    "aVS69aVS70aVS71aVS72aVS73aVS74aVS75aVS76aVS77aVS78aVS79aVS80aVS81aVS82aVS83aVS84aVS85aVS86",
    "aVS87aVS88aVS89aVS90aVS91aVS92aVS93aVS94aVS95aVS96aVS97aVS98aVS99aVS100aVS101aVS102aVS103",
    "aVS104aVS105aVS106aVS107aVS108aVS109aVS110aVS111aVS112aVS113aVS114aVS115aVS116aVS117aVS118",
    "aVS119aVS120aVS121aVS122aVS123aVS124aVS125aVS126aVS127aVS128aVS129aVS130aVS131aVS132aVS133",
    "aVS134aVS135aVS136aVS137aVS138aVS139aVS140aVS141aVS142aVS143aVS144aVS145aVS146aVS147aVS148",
    "aVS149aVS150aVS151aVS152aVS153aVS154aVS155aVS156aVS157aVS158aVS159aVS160aVS161aVS162aVS163",
    "aVS164aVS165aVS166aVS167aVS168aVS169aVS170aVS171aVS172aVS173aVS174aVS175aVS176aVS177aVS178",
    "aVS179aVS180aVS181aVS182aVS183aVS184aVS185aVS186aVS187aVS188aVS189aVS190aVS191aVS192aVS193",
    "aVS194aVS195aVS196aVS197aVS198aVS199aVS200aVS201aVS202aVS203aVS204aVS205aVS206aVS207aVS208",
    "aVS209aVS210aVS211aVS212aVS213aVS214aVS215aVS216aVS217aVS218aVS219aVS220aVS221aVS222aVS223",
    "aVS224aVS225aVS226aVS227aVS228aVS229aVS230aVS231aVS232aVS233aVS234aVS235aVS236aVS237aVS238",
    "aVS239aVS240aVS241aVS242aVS243aVS244aVS245aVS246aVS247aVS248aVS249aVS250aVS251aVS252aVS253",
    "aVS254aVS255aVS256"]⟩,
  ⟨0x0000, ["aNULLaSOHaSTXaETXaEOTaENQaACKaBELaBSaHORIZONTAL TABULATIONaLINE FEED",
    "aVERTICAL TABULATIONaFFaCRaSHIFT OUTbINaDLEaDC1aDC2aDC3aDC4aNAKaSYNaETBaCANaEOMaSUBaESC",
    "aINFORMATION SEPARATOR FOURcTHREEaRECORD SEPARATORaUNIT SEPARATOR"]⟩,
  ⟨0x007F, ["aDELaPADaHOPaBPHaNBHaINDaNELaSSAaESAaHORIZONTAL TABULATION SETcWITH JUSTIFICATION",
    "aVERTICAL TABULATION SETaPARTIAL LINE FORWARDcUPaREVERSE LINE FEEDaSINGLE-SHIFT-2",
    "aSINGLE-SHIFT-3aDCSaPRIVATE USE-1bUSE-2aSTSaCCHaMWaSTART OF PROTECTED AREA",
    "aEND OF PROTECTED AREAaSOSaSGCaSCIaCSIaSTaOSCaPMaAPC"]⟩,
  ⟨0xFEFF, ["aZWNBSP"]⟩,
  ⟨0x0009, ["aHTaNEW LINEaVT"]⟩,
  ⟨0x000E, ["aSOaSI"]⟩,
  ⟨0x001C, ["aFSaGSaRSaUS"]⟩,
  ⟨0x0088, ["aHTSaHTJaVTSaPLDaPLUaRIaSS2aSS3"]⟩,
  ⟨0x0091, ["aPU1aPU2"]⟩,
  ⟨0x0096, ["aSPAaEPA"]⟩,
  ⟨0xFEFF, ["aBOM"]⟩,
  ⟨0x0009, ["aTABaEOL"]⟩,
  ⟨0x000A, ["aLF"]⟩,
  ⟨0x000A, ["aNL"]⟩]

end Text
end DataContract
