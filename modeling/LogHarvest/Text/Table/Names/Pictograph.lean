import LogHarvest.Text.Table.NameRun

/-!
# Names: games, pictographs and tags
-/

namespace LogHarvest.Text.Table

def pictographNames : List NameRun := [
  ⟨0x1F000, [
    "aMAHJONG TILE EAST WINDcSOUTH WINDcWEST WINDcNORTH WINDcRED DRAGONcGREEN DRAGON",
    "cWHITE DRAGONcONE OF CHARACTERScTWO OF CHARACTERScTHREE OF CHARACTERScFOUR OF CHARACTERS",
    "cFIVE OF CHARACTERScSIX OF CHARACTERScSEVEN OF CHARACTERScEIGHT OF CHARACTERS",
    "cNINE OF CHARACTERScONE OF BAMBOOScTWO OF BAMBOOScTHREE OF BAMBOOScFOUR OF BAMBOOS",
    "cFIVE OF BAMBOOScSIX OF BAMBOOScSEVEN OF BAMBOOScEIGHT OF BAMBOOScNINE OF BAMBOOS",
    "cONE OF CIRCLEScTWO OF CIRCLEScTHREE OF CIRCLEScFOUR OF CIRCLEScFIVE OF CIRCLES",
    "cSIX OF CIRCLEScSEVEN OF CIRCLEScEIGHT OF CIRCLEScNINE OF CIRCLEScPLUMcORCHIDcBAMBOO",
    "cCHRYSANTHEMUMcSPRINGcSUMMERcAUTUMNcWINTERcJOKERcBACK....aDOMINO TILE HORIZONTAL BACK",
    "cHORIZONTAL-00-00e01e02e03e04e05e06d01-00e01e02e03e04e05e06d02-00e01e02e03e04e05e06d03-00",
    "e01e02e03e04e05e06d04-00e01e02e03e04e05e06d05-00e01e02e03e04e05e06d06-00e01e02e03e04e05e06",
    "cVERTICAL BACKcVERTICAL-00-00e01e02e03e04e05e06d01-00e01e02e03e04e05e06d02-00e01e02e03e04",
    "e05e06d03-00e01e02e03e04e05e06d04-00e01e02e03e04e05e06d05-00e01e02e03e04e05e06d06-00e01e02",
    "e03e04e05e06............aPLAYING CARD BACKcACE OF SPADEScTWO OF SPADEScTHREE OF SPADES",
    "cFOUR OF SPADEScFIVE OF SPADEScSIX OF SPADEScSEVEN OF SPADEScEIGHT OF SPADEScNINE OF SPADES",
    "cTEN OF SPADEScJACK OF SPADEScKNIGHT OF SPADEScQUEEN OF SPADEScKING OF SPADES..",
    "cACE OF HEARTScTWO OF HEARTScTHREE OF HEARTScFOUR OF HEARTScFIVE OF HEARTScSIX OF HEARTS",
    "cSEVEN OF HEARTScEIGHT OF HEARTScNINE OF HEARTScTEN OF HEARTScJACK OF HEARTS",
    "cKNIGHT OF HEARTScQUEEN OF HEARTScKING OF HEARTScRED JOKER.cACE OF DIAMONDScTWO OF DIAMONDS",
    "cTHREE OF DIAMONDScFOUR OF DIAMONDScFIVE OF DIAMONDScSIX OF DIAMONDScSEVEN OF DIAMONDS",
    "cEIGHT OF DIAMONDScNINE OF DIAMONDScTEN OF DIAMONDScJACK OF DIAMONDScKNIGHT OF DIAMONDS",
    "cQUEEN OF DIAMONDScKING OF DIAMONDScBLACK JOKER.cACE OF CLUBScTWO OF CLUBScTHREE OF CLUBS",
    "cFOUR OF CLUBScFIVE OF CLUBScSIX OF CLUBScSEVEN OF CLUBScEIGHT OF CLUBScNINE OF CLUBS",
    "cTEN OF CLUBScJACK OF CLUBScKNIGHT OF CLUBScQUEEN OF CLUBScKING OF CLUBScWHITE JOKERcFOOL",
    "cTRUMP-1d2d3d4d5d6d7d8d9d10d11d12d13d14d15d16d17d18d19d20d21"]⟩,
  ⟨0x1F100, [
    "aDIGIT ZERO FULL STOPcCOMMAbONE COMMAbTWO COMMAbTHREE COMMAbFOUR COMMAbFIVE COMMAbSIX COMMA",
    "bSEVEN COMMAbEIGHT COMMAbNINE COMMAaDINGBAT CIRCLED SANS-SERIF DIGIT ZERO",
    "bNEGATIVE CIRCLED SANS-SERIF DIGIT ZEROaCIRCLED ZERO WITH SLASHbANTICLOCKWISE ARROW",
    "bDOLLAR SIGN WITH OVERLAID BACKSLASHaPARENTHESIZED LATIN CAPITAL LETTER AeBeCeDeEeFeGeHeIeJ",
    "eKeLeMeNeOePeQeReSeTeUeVeWeXeYeZaTORTOISE SHELL BRACKETED LATIN CAPITAL LETTER S",
    "aCIRCLED ITALIC LATIN CAPITAL LETTER CfRbCDbWZaCOPYLEFT SYMBOL",
    "aSQUARED LATIN CAPITAL LETTER AeBeCeDeEeFeGeHeIeJeKeLeMeNeOePeQeReSeTeUeVeWeXeYeZbHVbMVbSD",
    "bSSbPPVbWCaNEGATIVE CIRCLED LATIN CAPITAL LETTER AfBfCfDfEfFfGfHfIfJfKfLfMfNfOfPfQfRfSfTfU",
    "fVfWfXfYfZaRAISED MC SIGNbMD SIGNbMR SIGNaCIRCLED CCbC WITH OVERLAID BACKSLASHbHUMAN FIGURE",
    "aNEGATIVE SQUARED LATIN CAPITAL LETTER AfBfCfDfEfFfGfHfIfJfKfLfMfNfOfPfQfRfSfTfUfVfWfXfYfZ",
    "aCROSSED NEGATIVE SQUARED LATIN CAPITAL LETTER PaNEGATIVE SQUARED ICcPAcSAcABcWCaSQUARE DJ",
    "aSQUARED CLbCOOLbFREEbIDbNEWbNGbOKbSOSbUP WITH EXCLAMATION MARKbVSbTHREE DbSECOND SCREEN",
    "bTWO KbFOUR KbEIGHT KbFIVE POINT ONEbSEVEN POINT ONEbTWENTY-TWO POINT TWObSIXTY P",
    "bONE HUNDRED TWENTY PbLATIN SMALL LETTER DbHCbHDRbHI-RESbLOSSLESSbSHVbUHDbVOD",
    "aMASK WORK SYMBOL"]⟩,
  ⟨0x1F1E6, [
    "aREGIONAL INDICATOR SYMBOL LETTER AeBeCeDeEeFeGeHeIeJeKeLeMeNeOePeQeReSeTeUeVeWeXeYeZ"]⟩,
  ⟨0x1F200, [
    "aSQUARE HIRAGANA HOKAaSQUARED KATAKANA KOKOcSA.............bCJK UNIFIED IDEOGRAPH-624Be5B57",
    "e53CCbKATAKANA DEbCJK UNIFIED IDEOGRAPH-4E8Ce591Ae89E3e5929e4EA4e6620e7121e6599e524De5F8C",
    "e518De65B0e521De7D42e751Fe8CA9e58F0e5439e6F14e6295e6355e4E00e4E09e904Ae5DE6e4E2De53F3e6307",
    "e8D70e6253e7981e7A7Ae5408e6E80e6709e6708e7533e5272e55B6e914D....",
    "aTORTOISE SHELL BRACKETED CJK UNIFIED IDEOGRAPH-672Cg4E09g4E8Cg5B89g70B9g6253g76D7g52DD",
    "g6557.......aCIRCLED IDEOGRAPH ADVANTAGEcACCEPT..............aROUNDED SYMBOL FOR FUdLUdSHOU",
    "dXIdSHUANGXIdCAI"]⟩,
  ⟨0x1F300, [
    "aCYCLONEaFOGGYaCLOSED UMBRELLAaNIGHT WITH STARSaSUNRISE OVER MOUNTAINSaSUNRISE",
    "aCITYSCAPE AT DUSKaSUNSET OVER BUILDINGSaRAINBOWaBRIDGE AT NIGHTaWATER WAVEaVOLCANO",
    "aMILKY WAYaEARTH GLOBE EUROPE-AFRICAcAMERICAScASIA-AUSTRALIAaGLOBE WITH MERIDIANS",
    "aNEW MOON SYMBOLaWAXING CRESCENT MOON SYMBOLaFIRST QUARTER MOON SYMBOL",
    "aWAXING GIBBOUS MOON SYMBOLaFULL MOON SYMBOLaWANING GIBBOUS MOON SYMBOL",
    "aLAST QUARTER MOON SYMBOLaWANING CRESCENT MOON SYMBOLaCRESCENT MOONaNEW MOON WITH FACE",
    "aFIRST QUARTER MOON WITH FACEaLAST QUARTER MOON WITH FACEaFULL MOON WITH FACEaSUN WITH FACE",
    "aGLOWING STARaSHOOTING STARaTHERMOMETERaBLACK DROPLETaWHITE SUNbSUN WITH SMALL CLOUD",
    "cBEHIND CLOUDdCLOUD WITH RAINaCLOUD WITH RAINcSNOWcLIGHTNINGcTORNADOaFOGaWIND BLOWING FACE",
    "aHOT DOGaTACOaBURRITOaCHESTNUTaSEEDLINGaEVERGREEN TREEaDECIDUOUS TREEaPALM TREEaCACTUS",
    "aHOT PEPPERaTULIPaCHERRY BLOSSOMaROSEaHIBISCUSaSUNFLOWERaBLOSSOMaEAR OF MAIZEcRICEaHERB",
    "aFOUR LEAF CLOVERaMAPLE LEAFaFALLEN LEAFaLEAF FLUTTERING IN WINDaMUSHROOMaTOMATOaAUBERGINE",
    "aGRAPESaMELONaWATERMELONaTANGERINEaLEMONaBANANAaPINEAPPLEaRED APPLEaGREEN APPLEaPEARaPEACH",
    "aCHERRIESaSTRAWBERRYaHAMBURGERaSLICE OF PIZZAaMEAT ON BONEaPOULTRY LEGaRICE CRACKERbBALL",
    "aCOOKED RICEaCURRY AND RICEaSTEAMING BOWLaSPAGHETTIaBREADaFRENCH FRIESaROASTED SWEET POTATO",
    "aDANGOaODENaSUSHIaFRIED SHRIMPaFISH CAKE WITH SWIRL DESIGNaSOFT ICE CREAMaSHAVED ICE",
    "aICE CREAMaDOUGHNUTaCOOKIEaCHOCOLATE BARaCANDYaLOLLIPOPaCUSTARDaHONEY POTaSHORTCAKE",
    "aBENTO BOXaPOT OF FOODaCOOKINGaFORK AND KNIFEaTEACUP WITHOUT HANDLEaSAKE BOTTLE AND CUP",
    "aWINE GLASSaCOCKTAIL GLASSaTROPICAL DRINKaBEER MUGaCLINKING BEER MUGSaBABY BOTTLE",
    "aFORK AND KNIFE WITH PLATEaBOTTLE WITH POPPING CORKaPOPCORNaRIBBONaWRAPPED PRESENT",
    "aBIRTHDAY CAKEaJACK-O-LANTERNaCHRISTMAS TREEaFATHER CHRISTMASaFIREWORKSaFIREWORK SPARKLER",
    "aBALLOONaPARTY POPPERaCONFETTI BALLaTANABATA TREEaCROSSED FLAGSaPINE DECORATION",
    "aJAPANESE DOLLSaCARP STREAMERaWIND CHIMEaMOON VIEWING CEREMONYaSCHOOL SATCHEL",
    "aGRADUATION CAPaHEART WITH TIP ON THE LEFTaBOUQUET OF FLOWERSaMILITARY MEDAL",
    "aREMINDER RIBBONaMUSICAL KEYBOARD WITH JACKSaSTUDIO MICROPHONEaLEVEL SLIDERaCONTROL KNOBS",
    "aBEAMED ASCENDING MUSICAL NOTESbDESCENDING MUSICAL NOTESaFILM FRAMESaADMISSION TICKETS",
    "aCAROUSEL HORSEaFERRIS WHEELaROLLER COASTERaFISHING POLE AND FISHaMICROPHONEaMOVIE CAMERA",
    "aCINEMAaHEADPHONEaARTIST PALETTEaTOP HATaCIRCUS TENTaTICKETaCLAPPER BOARDaPERFORMING ARTS",
    "aVIDEO GAMEaDIRECT HITaSLOT MACHINEaBILLIARDSaGAME DIEaBOWLINGaFLOWER PLAYING CARDS",
    "aMUSICAL NOTEaMULTIPLE MUSICAL NOTESaSAXOPHONEaGUITARaMUSICAL KEYBOARDaTRUMPETaVIOLIN",
    "aMUSICAL SCOREaRUNNING SHIRT WITH SASHaTENNIS RACQUET AND BALLaSKI AND SKI BOOT",
    "aBASKETBALL AND HOOPaCHEQUERED FLAGaSNOWBOARDERaRUNNERaSURFERaSPORTS MEDALaTROPHY",
    "aHORSE RACINGaAMERICAN FOOTBALLaRUGBY FOOTBALLaSWIMMERaWEIGHT LIFTERaGOLFER",
    "aRACING MOTORCYCLEbCARaCRICKET BAT AND BALLaVOLLEYBALLaFIELD HOCKEY STICK AND BALL",
    "aICE HOCKEY STICK AND PUCKaTABLE TENNIS PADDLE AND BALLaSNOW CAPPED MOUNTAINaCAMPING",
    "aBEACH WITH UMBRELLAaBUILDING CONSTRUCTIONaHOUSE BUILDINGSaCITYSCAPE",
    "aDERELICT HOUSE BUILDINGaCLASSICAL BUILDINGaDESERTaDESERT ISLANDaNATIONAL PARKaSTADIUM",
    "aHOUSE BUILDINGbWITH GARDENaOFFICE BUILDINGaJAPANESE POST OFFICEaEUROPEAN POST OFFICE",
    "aHOSPITALaBANKaAUTOMATED TELLER MACHINEaHOTELaLOVE HOTELaCONVENIENCE STOREaSCHOOL",
    "aDEPARTMENT STOREaFACTORYaIZAKAYA LANTERNaJAPANESE CASTLEaEUROPEAN CASTLEaWHITE PENNANT",
    "aBLACK PENNANTaWAVING WHITE FLAGbBLACK FLAGaROSETTEaBLACK ROSETTEaLABEL",
    "aBADMINTON RACQUET AND SHUTTLECOCKaBOW AND ARROWaAMPHORA",
    "aEMOJI MODIFIER FITZPATRICK TYPE-1-2e3e4e5e6"]⟩,
  ⟨0x1F400, [
    "aRATaMOUSEaOXaWATER BUFFALOaCOWaTIGERaLEOPARDaRABBITaCATaDRAGONaCROCODILEaWHALEaSNAILaSNAKE",
    "aHORSEaRAMaGOATaSHEEPaMONKEYaROOSTERaCHICKENaDOGaPIGaBOARaELEPHANTaOCTOPUSaSPIRAL SHELLaBUG",
    "aANTaHONEYBEEaLADY BEETLEaFISHaTROPICAL FISHaBLOWFISHaTURTLEaHATCHING CHICKaBABY CHICK",
    "aFRONT-FACING BABY CHICKaBIRDaPENGUINaKOALAaPOODLEaDROMEDARY CAMELaBACTRIAN CAMELaDOLPHIN",
    "aMOUSE FACEaCOW FACEaTIGER FACEaRABBIT FACEaCAT FACEaDRAGON FACEaSPOUTING WHALEaHORSE FACE",
    "aMONKEY FACEaDOG FACEaPIG FACEaFROG FACEaHAMSTER FACEaWOLF FACEaBEAR FACEaPANDA FACE",
    "aPIG NOSEaPAW PRINTSaCHIPMUNKaEYESaEYEaEARaNOSEaMOUTHaTONGUE",
    "aWHITE UP POINTING BACKHAND INDEXbDOWN POINTING BACKHAND INDEXbLEFT POINTING BACKHAND INDEX",
    "bRIGHT POINTING BACKHAND INDEXaFISTED HAND SIGNaWAVING HAND SIGNaOK HAND SIGN",
    "aTHUMBS UP SIGNbDOWN SIGNaCLAPPING HANDS SIGNaOPEN HANDS SIGNaCROWNaWOMANS HATaEYEGLASSES",
    "aNECKTIEaT-SHIRTaJEANSaDRESSaKIMONOaBIKINIaWOMANS CLOTHESaPURSEaHANDBAGaPOUCHaMANS SHOE",
    "aATHLETIC SHOEaHIGH-HEELED SHOEaWOMANS SANDALbBOOTSaFOOTPRINTSaBUST IN SILHOUETTE",
    "aBUSTS IN SILHOUETTEaBOYaGIRLaMANaWOMANaFAMILYaMAN AND WOMAN HOLDING HANDS",
    "aTWO MEN HOLDING HANDSbWOMEN HOLDING HANDSaPOLICE OFFICERaWOMAN WITH BUNNY EARS",
    "aBRIDE WITH VEILaPERSON WITH BLOND HAIRaMAN WITH GUA PI MAOcTURBANaOLDER MANbWOMANaBABY",
    "aCONSTRUCTION WORKERaPRINCESSaJAPANESE OGREbGOBLINaGHOSTaBABY ANGELaEXTRATERRESTRIAL ALIEN",
    "aALIEN MONSTERaIMPaSKULLaINFORMATION DESK PERSONaGUARDSMANaDANCERaLIPSTICKaNAIL POLISH",
    "aFACE MASSAGEaHAIRCUTaBARBER POLEaSYRINGEaPILLaKISS MARKaLOVE LETTERaRINGaGEM STONEaKISS",
    "aBOUQUETaCOUPLE WITH HEARTaWEDDINGaBEATING HEARTaBROKEN HEARTaTWO HEARTSaSPARKLING HEART",
    "aGROWING HEARTaHEART WITH ARROWaBLUE HEARTaGREEN HEARTaYELLOW HEARTaPURPLE HEART",
    "aHEART WITH RIBBONaREVOLVING HEARTSaHEART DECORATIONaDIAMOND SHAPE WITH A DOT INSIDE",
    "aELECTRIC LIGHT BULBaANGER SYMBOLaBOMBaSLEEPING SYMBOLaCOLLISION SYMBOL",
    "aSPLASHING SWEAT SYMBOLaDROPLETaDASH SYMBOLaPILE OF POOaFLEXED BICEPSaDIZZY SYMBOL",
    "aSPEECH BALLOONaTHOUGHT BALLOONaWHITE FLOWERaHUNDRED POINTS SYMBOLaMONEY BAG",
    "aCURRENCY EXCHANGEaHEAVY DOLLAR SIGNaCREDIT CARDaBANKNOTE WITH YEN SIGNcDOLLAR SIGN",
    "cEURO SIGNcPOUND SIGNaMONEY WITH WINGSaCHART WITH UPWARDS TREND AND YEN SIGNaSEAT",
    "aPERSONAL COMPUTERaBRIEFCASEaMINIDISCaFLOPPY DISKaOPTICAL DISCaDVDaFILE FOLDER",
    "aOPEN FILE FOLDERaPAGE WITH CURLbFACING UPaCALENDARaTEAR-OFF CALENDARaCARD INDEX",
    "aCHART WITH UPWARDS TRENDcDOWNWARDS TRENDaBAR CHARTaCLIPBOARDaPUSHPINaROUND PUSHPIN",
    "aPAPERCLIPaSTRAIGHT RULERaTRIANGULAR RULERaBOOKMARK TABSaLEDGERaNOTEBOOK",
    "aNOTEBOOK WITH DECORATIVE COVERaCLOSED BOOKaOPEN BOOKaGREEN BOOKaBLUE BOOKaORANGE BOOK",
    "aBOOKSaNAME BADGEaSCROLLaMEMOaTELEPHONE RECEIVERaPAGERaFAX MACHINEaSATELLITE ANTENNA",
    "aPUBLIC ADDRESS LOUDSPEAKERaCHEERING MEGAPHONEaOUTBOX TRAYaINBOX TRAYaPACKAGEaE-MAIL SYMBOL",
    "aINCOMING ENVELOPEaENVELOPE WITH DOWNWARDS ARROW ABOVEaCLOSED MAILBOX WITH LOWERED FLAG",
    "dRAISED FLAGaOPEN MAILBOX WITH RAISED FLAGdLOWERED FLAGaPOSTBOXaPOSTAL HORNaNEWSPAPER",
    "aMOBILE PHONEbPHONE WITH RIGHTWARDS ARROW AT LEFTaVIBRATION MODEaMOBILE PHONE OFF",
    "aNO MOBILE PHONESaANTENNA WITH BARSaCAMERAaCAMERA WITH FLASHaVIDEO CAMERAaTELEVISIONaRADIO",
    "aVIDEOCASSETTEaFILM PROJECTORaPORTABLE STEREOaPRAYER BEADS"]⟩,
  ⟨0x1F500, [
    "aTWISTED RIGHTWARDS ARROWSaCLOCKWISE RIGHTWARDS AND LEFTWARDS OPEN CIRCLE ARROWS",
    "gARROWS WITH CIRCLED ONE OVERLAYbDOWNWARDS AND UPWARDS OPEN CIRCLE ARROWS",
    "aANTICLOCKWISE DOWNWARDS AND UPWARDS OPEN CIRCLE ARROWSaLOW BRIGHTNESS SYMBOL",
    "aHIGH BRIGHTNESS SYMBOLaSPEAKER WITH CANCELLATION STROKEaSPEAKER",
    "aSPEAKER WITH ONE SOUND WAVEcTHREE SOUND WAVESaBATTERYaELECTRIC PLUG",
    "aLEFT-POINTING MAGNIFYING GLASSaRIGHT-POINTING MAGNIFYING GLASSaLOCK WITH INK PEN",
    "aCLOSED LOCK WITH KEYaKEYaLOCKaOPEN LOCKaBELLaBELL WITH CANCELLATION STROKEaBOOKMARK",
    "aLINK SYMBOLaRADIO BUTTONaBACK WITH LEFTWARDS ARROW ABOVEaEND WITH LEFTWARDS ARROW ABOVE",
    "aON WITH EXCLAMATION MARK WITH LEFT RIGHT ARROW ABOVEaSOON WITH RIGHTWARDS ARROW ABOVE",
    "aTOP WITH UPWARDS ARROW ABOVEaNO ONE UNDER EIGHTEEN SYMBOLaKEYCAP TEN",
    "aINPUT SYMBOL FOR LATIN CAPITAL LETTERSeSMALL LETTERSdNUMBERSdSYMBOLSdLATIN LETTERSaFIRE",
    "aELECTRIC TORCHaWRENCHaHAMMERaNUT AND BOLTaHOCHOaPISTOLaMICROSCOPEaTELESCOPEaCRYSTAL BALL",
    "aSIX POINTED STAR WITH MIDDLE DOTaJAPANESE SYMBOL FOR BEGINNERaTRIDENT EMBLEM",
    "aBLACK SQUARE BUTTONaWHITE SQUARE BUTTONaLARGE RED CIRCLEbBLUE CIRCLEbORANGE DIAMOND",
    "bBLUE DIAMONDaSMALL ORANGE DIAMONDbBLUE DIAMONDaUP-POINTING RED TRIANGLE",
    "aDOWN-POINTING RED TRIANGLEaUP-POINTING SMALL RED TRIANGLEaDOWN-POINTING SMALL RED TRIANGLE",
    "aLOWER RIGHT SHADOWED WHITE CIRCLEaUPPER RIGHT SHADOWED WHITE CIRCLEaCIRCLED CROSS POMMEE",
    "aCROSS POMMEE WITH HALF-CIRCLE BELOWbPOMMEEaNOTCHED LEFT SEMICIRCLE WITH THREE DOTS",
    "bRIGHT SEMICIRCLE WITH THREE DOTSaSYMBOL FOR MARKS CHAPTERaWHITE LATIN CROSS",
    "aHEAVY LATIN CROSSaCELTIC CROSSaOM SYMBOLaDOVE OF PEACEaKAABAaMOSQUEaSYNAGOGUE",
    "aMENORAH WITH NINE BRANCHESaBOWL OF HYGIEIAaCLOCK FACE ONE OCLOCKcTWO OCLOCKcTHREE OCLOCK",
    "cFOUR OCLOCKcFIVE OCLOCKcSIX OCLOCKcSEVEN OCLOCKcEIGHT OCLOCKcNINE OCLOCKcTEN OCLOCK",
    "cELEVEN OCLOCKcTWELVE OCLOCKcONE-THIRTYcTWO-THIRTYcTHREE-THIRTYcFOUR-THIRTYcFIVE-THIRTY",
    "cSIX-THIRTYcSEVEN-THIRTYcEIGHT-THIRTYcNINE-THIRTYcTEN-THIRTYcELEVEN-THIRTYcTWELVE-THIRTY",
    "aRIGHT SPEAKERbSPEAKER WITH ONE SOUND WAVEdTHREE SOUND WAVESaBULLHORN",
    "aBULLHORN WITH SOUND WAVESaRINGING BELLaBOOKaCANDLEaMANTELPIECE CLOCK",
    "aBLACK SKULL AND CROSSBONESaNO PIRACYaHOLEaMAN IN BUSINESS SUIT LEVITATINGaSLEUTH OR SPY",
    "aDARK SUNGLASSESaSPIDERaSPIDER WEBaJOYSTICKaMAN DANCINGaLEFT HAND TELEPHONE RECEIVER",
    "aTELEPHONE RECEIVER WITH PAGEaRIGHT HAND TELEPHONE RECEIVERaWHITE TOUCHTONE TELEPHONE",
    "aBLACK TOUCHTONE TELEPHONEaTELEPHONE ON TOP OF MODEMaCLAMSHELL MOBILE PHONE",
    "aBACK OF ENVELOPEaSTAMPED ENVELOPEaENVELOPE WITH LIGHTNINGaFLYING ENVELOPE",
    "aPEN OVER STAMPED ENVELOPEaLINKED PAPERCLIPSaBLACK PUSHPINaLOWER LEFT PENCILcBALLPOINT PEN",
    "cFOUNTAIN PENcPAINTBRUSHcCRAYONaLEFT WRITING HANDaTURNED OK HAND SIGN",
    "aRAISED HAND WITH FINGERS SPLAYEDaREVERSED RAISED HAND WITH FINGERS SPLAYEDbTHUMBS UP SIGN",
    "cDOWN SIGNbVICTORY HANDbHAND WITH MIDDLE FINGER EXTENDED",
    "aRAISED HAND WITH PART BETWEEN MIDDLE AND RING FINGERSaWHITE DOWN POINTING LEFT HAND INDEX",
    "aSIDEWAYS WHITE LEFT POINTING INDEXcRIGHT POINTING INDEXbBLACK LEFT POINTING INDEX",
    "cRIGHT POINTING INDEXaBLACK LEFT POINTING BACKHAND INDEXbRIGHT POINTING BACKHAND INDEX",
    "aSIDEWAYS WHITE UP POINTING INDEXcDOWN POINTING INDEXbBLACK UP POINTING INDEX",
    "cDOWN POINTING INDEXaBLACK UP POINTING BACKHAND INDEXbDOWN POINTING BACKHAND INDEXbHEART",
    "aDESKTOP COMPUTERaKEYBOARD AND MOUSEaTHREE NETWORKED COMPUTERSaPRINTERaPOCKET CALCULATOR",
    "aBLACK HARD SHELL FLOPPY DISKaWHITE HARD SHELL FLOPPY DISKaSOFT SHELL FLOPPY DISK",
    "aTAPE CARTRIDGEaWIRED KEYBOARDaONE BUTTON MOUSEaTWO BUTTON MOUSEaTHREE BUTTON MOUSE",
    "aTRACKBALLaOLD PERSONAL COMPUTERaHARD DISKaSCREENaPRINTER ICONaFAX ICONaOPTICAL DISC ICON",
    "aDOCUMENT WITH TEXTcTEXT AND PICTUREcPICTUREaFRAME WITH PICTUREcTILEScAN XaBLACK FOLDER",
    "aFOLDERaOPEN FOLDERaCARD INDEX DIVIDERSbFILE BOXaFILE CABINETaEMPTY NOTEbNOTE PAGEcPADaNOTE",
    "aNOTE PAGEbPADaEMPTY DOCUMENTbPAGEbPAGESaDOCUMENTaPAGEaPAGESaWASTEBASKETaSPIRAL NOTE PAD",
    "bCALENDAR PADaDESKTOP WINDOWaMINIMIZEaMAXIMIZEaOVERLAP",
    "aCLOCKWISE RIGHT AND LEFT SEMICIRCLE ARROWSaCANCELLATION XaINCREASE FONT SIZE SYMBOL",
    "aDECREASE FONT SIZE SYMBOLaCOMPRESSIONaOLD KEYaROLLED-UP NEWSPAPERaPAGE WITH CIRCLED TEXT",
    "aSTOCK CHARTaDAGGER KNIFEaLIPSaSPEAKING HEAD IN SILHOUETTEaTHREE RAYS ABOVEcBELOWcLEFT",
    "cRIGHTaLEFT SPEECH BUBBLEaRIGHT SPEECH BUBBLEaTWO SPEECH BUBBLESaTHREE SPEECH BUBBLES",
    "aLEFT THOUGHT BUBBLEaRIGHT THOUGHT BUBBLEaLEFT ANGER BUBBLEaRIGHT ANGER BUBBLEaMOOD BUBBLE",
    "aLIGHTNING MOOD BUBBLEbMOODaBALLOT BOX WITH BALLOTbSCRIPT XbBOX WITH SCRIPT XbBOLD SCRIPT X",
    "bBOX WITH BOLD SCRIPT XaLIGHT CHECK MARKaBALLOT BOX WITH BOLD CHECKaWORLD MAPaMOUNT FUJI",
    "aTOKYO TOWERaSTATUE OF LIBERTYaSILHOUETTE OF JAPANaMOYAI"]⟩,
  ⟨0x1F600, [
    "aGRINNING FACEbFACE WITH SMILING EYESaFACE WITH TEARS OF JOYaSMILING FACE WITH OPEN MOUTH",
    "eMOUTH AND SMILING EYESgCOLD SWEATgTIGHTLY-CLOSED EYESdHALOdHORNSaWINKING FACE",
    "aSMILING FACE WITH SMILING EYESaFACE SAVOURING DELICIOUS FOODaRELIEVED FACE",
    "aSMILING FACE WITH HEART-SHAPED EYESdSUNGLASSESaSMIRKING FACEaNEUTRAL FACE",
    "aEXPRESSIONLESS FACEaUNAMUSED FACEaFACE WITH COLD SWEATaPENSIVE FACEaCONFUSED FACE",
    "aCONFOUNDED FACEaKISSING FACEaFACE THROWING A KISSaKISSING FACE WITH SMILING EYES",
    "dCLOSED EYESaFACE WITH STUCK-OUT TONGUEeTONGUE AND WINKING EYEgTIGHTLY-CLOSED EYES",
    "aDISAPPOINTED FACEaWORRIED FACEaANGRY FACEaPOUTING FACEaCRYING FACEaPERSEVERING FACE",
    "aFACE WITH LOOK OF TRIUMPHaDISAPPOINTED BUT RELIEVED FACEaFROWNING FACE WITH OPEN MOUTH",
    "aANGUISHED FACEaFEARFUL FACEaWEARY FACEaSLEEPY FACEaTIRED FACEaGRIMACING FACE",
    "aLOUDLY CRYING FACEaFACE WITH OPEN MOUTHaHUSHED FACEaFACE WITH OPEN MOUTH AND COLD SWEAT",
    "bSCREAMING IN FEARaASTONISHED FACEaFLUSHED FACEaSLEEPING FACEaDIZZY FACEaFACE WITHOUT MOUTH",
    "bWITH MEDICAL MASKaGRINNING CAT FACE WITH SMILING EYESaCAT FACE WITH TEARS OF JOY",
    "aSMILING CAT FACE WITH OPEN MOUTHeHEART-SHAPED EYESaCAT FACE WITH WRY SMILE",
    "aKISSING CAT FACE WITH CLOSED EYESaPOUTING CAT FACEaCRYING CAT FACEaWEARY CAT FACE",
    "aSLIGHTLY FROWNING FACEbSMILING FACEaUPSIDE-DOWN FACEaFACE WITH ROLLING EYES",
    "cNO GOOD GESTUREcOK GESTUREaPERSON BOWING DEEPLYaSEE-NO-EVIL MONKEYaHEAR-NO-EVIL MONKEY",
    "aSPEAK-NO-EVIL MONKEYaHAPPY PERSON RAISING ONE HAND",
    "aPERSON RAISING BOTH HANDS IN CELEBRATIONbFROWNINGbWITH POUTING FACEcFOLDED HANDS",
    "aNORTH WEST POINTING LEAFaSOUTH WEST POINTING LEAFaNORTH EAST POINTING LEAF",
    "aSOUTH EAST POINTING LEAFaTURNED NORTH WEST POINTING LEAFbSOUTH WEST POINTING LEAF",
    "bNORTH EAST POINTING LEAFbSOUTH EAST POINTING LEAFaNORTH WEST POINTING VINE LEAF",
    "aSOUTH WEST POINTING VINE LEAFaNORTH EAST POINTING VINE LEAFaSOUTH EAST POINTING VINE LEAF",
    "aHEAVY NORTH WEST POINTING VINE LEAFbSOUTH WEST POINTING VINE LEAF",
    "bNORTH EAST POINTING VINE LEAFbSOUTH EAST POINTING VINE LEAFaNORTH WEST POINTING BUD",
    "aSOUTH WEST POINTING BUDaNORTH EAST POINTING BUDaSOUTH EAST POINTING BUD",
    "aHEAVY NORTH WEST POINTING BUDbSOUTH WEST POINTING BUDbNORTH EAST POINTING BUD",
    "bSOUTH EAST POINTING BUDaHOLLOW QUILT SQUARE ORNAMENTdORNAMENT IN BLACK SQUARE",
    "aSOLID QUILT SQUARE ORNAMENTdORNAMENT IN BLACK SQUAREaLEFTWARDS ROCKETaUPWARDS ROCKET",
    "aRIGHTWARDS ROCKETaDOWNWARDS ROCKETaSCRIPT LIGATURE ET ORNAMENT",
    "aHEAVY SCRIPT LIGATURE ET ORNAMENTaLIGATURE OPEN ET ORNAMENT",
    "aHEAVY LIGATURE OPEN ET ORNAMENTbAMPERSAND ORNAMENTaSWASH AMPERSAND ORNAMENT",
    "aSANS-SERIF HEAVY DOUBLE TURNED COMMA QUOTATION MARK ORNAMENTeCOMMA QUOTATION MARK ORNAMENT",
    "dLOW DOUBLE COMMA QUOTATION MARK ORNAMENTaHEAVY INTERROBANG ORNAMENT",
    "aSANS-SERIF INTERROBANG ORNAMENTaHEAVY SANS-SERIF INTERROBANG ORNAMENTaVERY HEAVY SOLIDUS",
    "cREVERSE SOLIDUSaCHECKER BOARDaREVERSE CHECKER BOARDaROCKETaHELICOPTERaSTEAM LOCOMOTIVE",
    "aRAILWAY CARaHIGH-SPEED TRAINcTRAIN WITH BULLET NOSEaTRAINaMETROaLIGHT RAILaSTATIONaTRAM",
    "aTRAM CARaBUSaONCOMING BUSaTROLLEYBUSaBUS STOPaMINIBUSaAMBULANCEaFIRE ENGINEaPOLICE CAR",
    "aONCOMING POLICE CARaTAXIaONCOMING TAXIaAUTOMOBILEaONCOMING AUTOMOBILEaRECREATIONAL VEHICLE",
    "aDELIVERY TRUCKaARTICULATED LORRYaTRACTORaMONORAILaMOUNTAIN RAILWAYaSUSPENSION RAILWAY",
    "aMOUNTAIN CABLEWAYaAERIAL TRAMWAYaSHIPaROWBOATaSPEEDBOATaHORIZONTAL TRAFFIC LIGHT",
    "aVERTICAL TRAFFIC LIGHTaCONSTRUCTION SIGNaPOLICE CARS REVOLVING LIGHT",
    "aTRIANGULAR FLAG ON POSTaDOORaNO ENTRY SIGNaSMOKING SYMBOLaNO SMOKING SYMBOL",
    "aPUT LITTER IN ITS PLACE SYMBOLaDO NOT LITTER SYMBOLaPOTABLE WATER SYMBOL",
    "aNON-POTABLE WATER SYMBOLaBICYCLEaNO BICYCLESaBICYCLISTaMOUNTAIN BICYCLISTaPEDESTRIAN",
    "aNO PEDESTRIANSaCHILDREN CROSSINGaMENS SYMBOLaWOMENS SYMBOLaRESTROOMaBABY SYMBOLaTOILET",
    "aWATER CLOSETaSHOWERaBATHaBATHTUBaPASSPORT CONTROLaCUSTOMSaBAGGAGE CLAIMaLEFT LUGGAGE",
    "aTRIANGLE WITH ROUNDED CORNERSaPROHIBITED SIGNaCIRCLED INFORMATION SOURCEaBOYS SYMBOL",
    "aGIRLS SYMBOLaCOUCH AND LAMPaSLEEPING ACCOMMODATIONaSHOPPING BAGSaBELLHOP BELLaBED",
    "aPLACE OF WORSHIPaOCTAGONAL SIGNaSHOPPING TROLLEYaSTUPAaPAGODAaHINDU TEMPLEaHUTaELEVATOR...",
    "..aPLAYGROUND SLIDEaWHEELaRING BUOYaHAMMER AND WRENCHaSHIELDaOIL DRUMaMOTORWAY",
    "aRAILWAY TRACKaMOTOR BOATaUP-POINTING MILITARY AIRPLANEcAIRPLANEcSMALL AIRPLANE",
    "aSMALL AIRPLANEaNORTHEAST-POINTING AIRPLANEaAIRPLANE DEPARTUREbARRIVING...aSATELLITE",
    "aONCOMING FIRE ENGINEaDIESEL LOCOMOTIVEaPASSENGER SHIPaSCOOTERaMOTOR SCOOTERaCANOEaSLED",
    "aFLYING SAUCERaSKATEBOARDaAUTO RICKSHAWaPICKUP TRUCKaROLLER SKATE"]⟩,
  ⟨0x1F700, [
    "aALCHEMICAL SYMBOL FOR QUINTESSENCEdAIRdFIREdEARTHdWATERdAQUAFORTISdAQUA REGIAeREGIA-2",
    "eVITAEeVITAE-2dVINEGARdVINEGAR-2e3dSULFURdPHILOSOPHERS SULFURdBLACK SULFUR",
    "dMERCURY SUBLIMATEeSUBLIMATE-2f3dCINNABARdSALTdNITREdVITRIOLdVITRIOL-2dROCK SALTeSALT-2",
    "dGOLDdSILVERdIRON OREeORE-2dCROCUS OF IRONdREGULUS OF IRONdCOPPER OREdIRON-COPPER ORE",
    "dSUBLIMATE OF COPPERdCROCUS OF COPPERfCOPPER-2dCOPPER ANTIMONIATE",
    "dSALT OF COPPER ANTIMONIATEdSUBLIMATE OF SALT OF COPPERdVERDIGRISdTIN OREdLEAD ORE",
    "dANTIMONY OREdSUBLIMATE OF ANTIMONYdSALT OF ANTIMONYdSUBLIMATE OF SALT OF ANTIMONY",
    "dVINEGAR OF ANTIMONYdREGULUS OF ANTIMONYfANTIMONY-2dREGULUSdREGULUS-2e3e4dALKALIdALKALI-2",
    "dMARCASITEdSAL-AMMONIACdARSENICdREALGARdREALGAR-2dAURIPIGMENTdBISMUTH OREdTARTARdTARTAR-2",
    "dQUICK LIMEdBORAXdBORAX-2e3dALUMdOILdSPIRITdTINCTUREdGUMdWAXdPOWDERdCALXdTUTTY",
    "dCAPUT MORTUUMdSCEPTER OF JOVEdCADUCEUSdTRIDENTdSTARRED TRIDENTdLODESTONEdSOAPdURINE",
    "dHORSE DUNGdASHESdPOT ASHESdBRICKdPOWDERED BRICKdAMALGAMdSTRATUM SUPER STRATUMfSTRATUM-2",
    "dSUBLIMATIONdPRECIPITATEdDISTILLdDISSOLVEdDISSOLVE-2dPURIFYdPUTREFACTIONdCRUCIBLE",
    "dCRUCIBLE-2e3e4e5dALEMBICdBATH OF MARYfVAPOURSdRETORTdHOURdNIGHTdDAY-NIGHTdMONTHdHALF DRAM",
    "eOUNCE............aBLACK LEFT-POINTING ISOSCELES RIGHT TRIANGLE",
    "bUP-POINTING ISOSCELES RIGHT TRIANGLEbRIGHT-POINTING ISOSCELES RIGHT TRIANGLE",
    "bDOWN-POINTING ISOSCELES RIGHT TRIANGLEbSLIGHTLY SMALL CIRCLEaMEDIUM BOLD WHITE CIRCLE",
    "aBOLD WHITE CIRCLEaHEAVY WHITE CIRCLEaVERY HEAVY WHITE CIRCLEaEXTREMELY HEAVY WHITE CIRCLE",
    "aWHITE CIRCLE CONTAINING BLACK SMALL CIRCLEaROUND TARGETaBLACK TINY SQUARE",
    "bSLIGHTLY SMALL SQUAREaLIGHT WHITE SQUAREaMEDIUM WHITE SQUAREaBOLD WHITE SQUARE",
    "aHEAVY WHITE SQUAREaVERY HEAVY WHITE SQUAREaEXTREMELY HEAVY WHITE SQUARE",
    "aWHITE SQUARE CONTAINING BLACK VERY SMALL SQUAREeMEDIUM SQUAREaSQUARE TARGET",
    "aBLACK TINY DIAMONDbVERY SMALL DIAMONDbMEDIUM SMALL DIAMOND",
    "aWHITE DIAMOND CONTAINING BLACK VERY SMALL DIAMONDeMEDIUM DIAMONDaDIAMOND TARGET",
    "aBLACK TINY LOZENGEbVERY SMALL LOZENGEbMEDIUM SMALL LOZENGE",
    "aWHITE LOZENGE CONTAINING BLACK SMALL LOZENGEaTHIN GREEK CROSSaLIGHT GREEK CROSS",
    "aMEDIUM GREEK CROSSaBOLD GREEK CROSSaVERY BOLD GREEK CROSSbHEAVY GREEK CROSS",
    "aEXTREMELY HEAVY GREEK CROSSaTHIN SALTIREaLIGHT SALTIREaMEDIUM SALTIREaBOLD SALTIRE",
    "aHEAVY SALTIREaVERY HEAVY SALTIREaEXTREMELY HEAVY SALTIREaLIGHT FIVE SPOKED ASTERISK",
    "aMEDIUM FIVE SPOKED ASTERISKaBOLD FIVE SPOKED ASTERISKaHEAVY FIVE SPOKED ASTERISK",
    "aVERY HEAVY FIVE SPOKED ASTERISKaEXTREMELY HEAVY FIVE SPOKED ASTERISK",
    "aLIGHT SIX SPOKED ASTERISKaMEDIUM SIX SPOKED ASTERISKaBOLD SIX SPOKED ASTERISK",
    "aHEAVY SIX SPOKED ASTERISKaVERY HEAVY SIX SPOKED ASTERISK",
    "aEXTREMELY HEAVY SIX SPOKED ASTERISKaLIGHT EIGHT SPOKED ASTERISK",
    "aMEDIUM EIGHT SPOKED ASTERISKaBOLD EIGHT SPOKED ASTERISKaHEAVY EIGHT SPOKED ASTERISK",
    "aVERY HEAVY EIGHT SPOKED ASTERISKaLIGHT THREE POINTED BLACK STAR",
    "aMEDIUM THREE POINTED BLACK STARaTHREE POINTED BLACK STAR",
    "aMEDIUM THREE POINTED PINWHEEL STARaLIGHT FOUR POINTED BLACK STAR",
    "aMEDIUM FOUR POINTED BLACK STARaFOUR POINTED BLACK STARaMEDIUM FOUR POINTED PINWHEEL STAR",
    "aREVERSE LIGHT FOUR POINTED PINWHEEL STARaLIGHT FIVE POINTED BLACK STAR",
    "aHEAVY FIVE POINTED BLACK STARaMEDIUM SIX POINTED BLACK STARaHEAVY SIX POINTED BLACK STAR",
    "aSIX POINTED PINWHEEL STARaMEDIUM EIGHT POINTED BLACK STARaHEAVY EIGHT POINTED BLACK STAR",
    "aVERY HEAVY EIGHT POINTED BLACK STARaHEAVY EIGHT POINTED PINWHEEL STAR",
    "aLIGHT TWELVE POINTED BLACK STARaHEAVY TWELVE POINTED BLACK STARdPINWHEEL STAR",
    "aCIRCLED TRIANGLEaNEGATIVE CIRCLED TRIANGLEaCIRCLED SQUAREaNEGATIVE CIRCLED SQUARE.......",
    "aLARGE ORANGE CIRCLEbYELLOW CIRCLEbGREEN CIRCLEbPURPLE CIRCLEbBROWN CIRCLEbRED SQUARE",
    "bBLUE SQUAREbORANGE SQUAREbYELLOW SQUAREbGREEN SQUAREbPURPLE SQUAREbBROWN SQUARE....",
    "aHEAVY EQUALS SIGN"]⟩,
  ⟨0x1F800, [
    "aLEFTWARDS ARROW WITH SMALL TRIANGLE ARROWHEADaUPWARDS ARROW WITH SMALL TRIANGLE ARROWHEAD",
    "aRIGHTWARDS ARROW WITH SMALL TRIANGLE ARROWHEAD",
    "aDOWNWARDS ARROW WITH SMALL TRIANGLE ARROWHEAD",
    "aLEFTWARDS ARROW WITH MEDIUM TRIANGLE ARROWHEAD",
    "aUPWARDS ARROW WITH MEDIUM TRIANGLE ARROWHEAD",
    "aRIGHTWARDS ARROW WITH MEDIUM TRIANGLE ARROWHEAD",
    "aDOWNWARDS ARROW WITH MEDIUM TRIANGLE ARROWHEAD",
    "aLEFTWARDS ARROW WITH LARGE TRIANGLE ARROWHEADaUPWARDS ARROW WITH LARGE TRIANGLE ARROWHEAD",
    "aRIGHTWARDS ARROW WITH LARGE TRIANGLE ARROWHEAD",
    "aDOWNWARDS ARROW WITH LARGE TRIANGLE ARROWHEAD....",
    "aLEFTWARDS ARROW WITH SMALL EQUILATERAL ARROWHEAD",
    "aUPWARDS ARROW WITH SMALL EQUILATERAL ARROWHEAD",
    "aRIGHTWARDS ARROW WITH SMALL EQUILATERAL ARROWHEAD",
    "aDOWNWARDS ARROW WITH SMALL EQUILATERAL ARROWHEAD",
    "aLEFTWARDS ARROW WITH EQUILATERAL ARROWHEADaUPWARDS ARROW WITH EQUILATERAL ARROWHEAD",
    "aRIGHTWARDS ARROW WITH EQUILATERAL ARROWHEADaDOWNWARDS ARROW WITH EQUILATERAL ARROWHEAD",
    "aHEAVY LEFTWARDS ARROW WITH EQUILATERAL ARROWHEADbUPWARDS ARROW WITH EQUILATERAL ARROWHEAD",
    "bRIGHTWARDS ARROW WITH EQUILATERAL ARROWHEADbDOWNWARDS ARROW WITH EQUILATERAL ARROWHEAD",
    "bLEFTWARDS ARROW WITH LARGE EQUILATERAL ARROWHEAD",
    "bUPWARDS ARROW WITH LARGE EQUILATERAL ARROWHEAD",
    "bRIGHTWARDS ARROW WITH LARGE EQUILATERAL ARROWHEAD",
    "bDOWNWARDS ARROW WITH LARGE EQUILATERAL ARROWHEAD",
    "aLEFTWARDS TRIANGLE-HEADED ARROW WITH NARROW SHAFT",
    "aUPWARDS TRIANGLE-HEADED ARROW WITH NARROW SHAFT",
    "aRIGHTWARDS TRIANGLE-HEADED ARROW WITH NARROW SHAFT",
    "aDOWNWARDS TRIANGLE-HEADED ARROW WITH NARROW SHAFT",
    "aLEFTWARDS TRIANGLE-HEADED ARROW WITH MEDIUM SHAFT",
    "aUPWARDS TRIANGLE-HEADED ARROW WITH MEDIUM SHAFT",
    "aRIGHTWARDS TRIANGLE-HEADED ARROW WITH MEDIUM SHAFT",
    "aDOWNWARDS TRIANGLE-HEADED ARROW WITH MEDIUM SHAFT",
    "aLEFTWARDS TRIANGLE-HEADED ARROW WITH BOLD SHAFT",
    "aUPWARDS TRIANGLE-HEADED ARROW WITH BOLD SHAFT",
    "aRIGHTWARDS TRIANGLE-HEADED ARROW WITH BOLD SHAFT",
    "aDOWNWARDS TRIANGLE-HEADED ARROW WITH BOLD SHAFT",
    "aLEFTWARDS TRIANGLE-HEADED ARROW WITH HEAVY SHAFT",
    "aUPWARDS TRIANGLE-HEADED ARROW WITH HEAVY SHAFT",
    "aRIGHTWARDS TRIANGLE-HEADED ARROW WITH HEAVY SHAFT",
    "aDOWNWARDS TRIANGLE-HEADED ARROW WITH HEAVY SHAFT",
    "aLEFTWARDS TRIANGLE-HEADED ARROW WITH VERY HEAVY SHAFT",
    "aUPWARDS TRIANGLE-HEADED ARROW WITH VERY HEAVY SHAFT",
    "aRIGHTWARDS TRIANGLE-HEADED ARROW WITH VERY HEAVY SHAFT",
    "aDOWNWARDS TRIANGLE-HEADED ARROW WITH VERY HEAVY SHAFTaLEFTWARDS FINGER-POST ARROW",
    "aUPWARDS FINGER-POST ARROWaRIGHTWARDS FINGER-POST ARROWaDOWNWARDS FINGER-POST ARROW",
    "aLEFTWARDS SQUARED ARROWaUPWARDS SQUARED ARROWaRIGHTWARDS SQUARED ARROW",
    "aDOWNWARDS SQUARED ARROWaLEFTWARDS COMPRESSED ARROWaUPWARDS COMPRESSED ARROW",
    "aRIGHTWARDS COMPRESSED ARROWaDOWNWARDS COMPRESSED ARROWaLEFTWARDS HEAVY COMPRESSED ARROW",
    "aUPWARDS HEAVY COMPRESSED ARROWaRIGHTWARDS HEAVY COMPRESSED ARROW",
    "aDOWNWARDS HEAVY COMPRESSED ARROWaLEFTWARDS HEAVY ARROWaUPWARDS HEAVY ARROW",
    "aRIGHTWARDS HEAVY ARROWaDOWNWARDS HEAVY ARROW........aLEFTWARDS SANS-SERIF ARROW",
    "aUPWARDS SANS-SERIF ARROWaRIGHTWARDS SANS-SERIF ARROWaDOWNWARDS SANS-SERIF ARROW",
    "aNORTH WEST SANS-SERIF ARROWbEAST SANS-SERIF ARROWaSOUTH EAST SANS-SERIF ARROW",
    "bWEST SANS-SERIF ARROWaLEFT RIGHT SANS-SERIF ARROWaUP DOWN SANS-SERIF ARROW......",
    "aWIDE-HEADED LEFTWARDS LIGHT BARB ARROWcUPWARDS LIGHT BARB ARROW",
    "cRIGHTWARDS LIGHT BARB ARROWcDOWNWARDS LIGHT BARB ARROWcNORTH WEST LIGHT BARB ARROW",
    "dEAST LIGHT BARB ARROWcSOUTH EAST LIGHT BARB ARROWdWEST LIGHT BARB ARROW",
    "cLEFTWARDS BARB ARROWcUPWARDS BARB ARROWcRIGHTWARDS BARB ARROWcDOWNWARDS BARB ARROW",
    "cNORTH WEST BARB ARROWdEAST BARB ARROWcSOUTH EAST BARB ARROWdWEST BARB ARROW",
    "cLEFTWARDS MEDIUM BARB ARROWcUPWARDS MEDIUM BARB ARROWcRIGHTWARDS MEDIUM BARB ARROW",
    "cDOWNWARDS MEDIUM BARB ARROWcNORTH WEST MEDIUM BARB ARROWdEAST MEDIUM BARB ARROW",
    "cSOUTH EAST MEDIUM BARB ARROWdWEST MEDIUM BARB ARROWcLEFTWARDS HEAVY BARB ARROW",
    "cUPWARDS HEAVY BARB ARROWcRIGHTWARDS HEAVY BARB ARROWcDOWNWARDS HEAVY BARB ARROW",
    "cNORTH WEST HEAVY BARB ARROWdEAST HEAVY BARB ARROWcSOUTH EAST HEAVY BARB ARROW",
    "dWEST HEAVY BARB ARROWcLEFTWARDS VERY HEAVY BARB ARROWcUPWARDS VERY HEAVY BARB ARROW",
    "cRIGHTWARDS VERY HEAVY BARB ARROWcDOWNWARDS VERY HEAVY BARB ARROW",
    "cNORTH WEST VERY HEAVY BARB ARROWdEAST VERY HEAVY BARB ARROW",
    "cSOUTH EAST VERY HEAVY BARB ARROWdWEST VERY HEAVY BARB ARROW........",
    "aLEFTWARDS TRIANGLE ARROWHEADaUPWARDS TRIANGLE ARROWHEADaRIGHTWARDS TRIANGLE ARROWHEAD",
    "aDOWNWARDS TRIANGLE ARROWHEADaLEFTWARDS WHITE ARROW WITHIN TRIANGLE ARROWHEAD",
    "aUPWARDS WHITE ARROW WITHIN TRIANGLE ARROWHEAD",
    "aRIGHTWARDS WHITE ARROW WITHIN TRIANGLE ARROWHEAD",
    "aDOWNWARDS WHITE ARROW WITHIN TRIANGLE ARROWHEADaLEFTWARDS ARROW WITH NOTCHED TAIL",
    "aUPWARDS ARROW WITH NOTCHED TAILaRIGHTWARDS ARROW WITH NOTCHED TAIL",
    "aDOWNWARDS ARROW WITH NOTCHED TAILaHEAVY ARROW SHAFT WIDTH ONEeTWO THIRDSeONE HALFfTHIRD",
    "aLEFTWARDS BOTTOM-SHADED WHITE ARROWaRIGHTWARDS BOTTOM SHADED WHITE ARROW",
    "aLEFTWARDS TOP SHADED WHITE ARROWaRIGHTWARDS TOP SHADED WHITE ARROW",
    "aLEFTWARDS LEFT-SHADED WHITE ARROWaRIGHTWARDS RIGHT-SHADED WHITE ARROW",
    "aLEFTWARDS RIGHT-SHADED WHITE ARROWaRIGHTWARDS LEFT-SHADED WHITE ARROW",
    "aLEFTWARDS BACK-TILTED SHADOWED WHITE ARROWaRIGHTWARDS BACK-TILTED SHADOWED WHITE ARROW",
    "aLEFTWARDS FRONT-TILTED SHADOWED WHITE ARROWaRIGHTWARDS FRONT-TILTED SHADOWED WHITE ARROW",
    "aWHITE ARROW SHAFT WIDTH ONEeTWO THIRDS..aARROW POINTING UPWARDS THEN NORTH WEST",
    "cRIGHTWARDS THEN CURVING SOUTH WEST"]⟩,
  ⟨0x1F900, [
    "aCIRCLED CROSS FORMEE WITH FOUR DOTSeTWO DOTScFORMEEaLEFT HALF CIRCLE WITH FOUR DOTS",
    "eTHREE DOTSeTWO DOTSeDOTcCIRCLEaDOWNWARD FACING HOOKcNOTCHED HOOKcHOOK WITH DOT",
    "cNOTCHED HOOK WITH DOTaPINCHED FINGERSaWHITE HEARTaBROWN HEARTaPINCHING HAND",
    "aZIPPER-MOUTH FACEaMONEY-MOUTH FACEaFACE WITH THERMOMETERaNERD FACEaTHINKING FACE",
    "aFACE WITH HEAD-BANDAGEaROBOT FACEaHUGGING FACEaSIGN OF THE HORNSaCALL ME HAND",
    "aRAISED BACK OF HANDaLEFT-FACING FISTaRIGHT-FACING FISTaHANDSHAKE",
    "aHAND WITH INDEX AND MIDDLE FINGERS CROSSEDaI LOVE YOU HAND SIGNaFACE WITH COWBOY HAT",
    "aCLOWN FACEaNAUSEATED FACEaROLLING ON THE FLOOR LAUGHINGaDROOLING FACEaLYING FACEaFACE PALM",
    "aSNEEZING FACEaFACE WITH ONE EYEBROW RAISEDaGRINNING FACE WITH STAR EYES",
    "dONE LARGE AND ONE SMALL EYEaFACE WITH FINGER COVERING CLOSED LIPS",
    "aSERIOUS FACE WITH SYMBOLS COVERING MOUTH",
    "aSMILING FACE WITH SMILING EYES AND HAND COVERING MOUTHaFACE WITH OPEN MOUTH VOMITING",
    "aSHOCKED FACE WITH EXPLODING HEADaPREGNANT WOMANaBREAST-FEEDINGaPALMS UP TOGETHERaSELFIE",
    "aPRINCEaMAN IN TUXEDOaMOTHER CHRISTMASaSHRUGaPERSON DOING CARTWHEELaJUGGLINGaFENCER",
    "aMODERN PENTATHLONaWRESTLERSaWATER POLOaHANDBALLaDIVING MASKaWILTED FLOWER",
    "aDRUM WITH DRUMSTICKSaCLINKING GLASSESaTUMBLER GLASSaSPOONaGOAL NETaRIFLEaFIRST PLACE MEDAL",
    "aSECOND PLACE MEDALaTHIRD PLACE MEDALaBOXING GLOVEaMARTIAL ARTS UNIFORMaCURLING STONE",
    "aLACROSSE STICK AND BALLaSOFTBALLaFLYING DISCaCROISSANTaAVOCADOaCUCUMBERaBACONaPOTATO",
    "aCARROTaBAGUETTE BREADaGREEN SALADaSHALLOW PAN OF FOODaSTUFFED FLATBREADaEGGaGLASS OF MILK",
    "aPEANUTSaKIWIFRUITaPANCAKESaDUMPLINGaFORTUNE COOKIEaTAKEOUT BOXaCHOPSTICKSaBOWL WITH SPOON",
    "aCUP WITH STRAWaCOCONUTaBROCCOLIaPIEaPRETZELaCUT OF MEATaSANDWICHaCANNED FOODaLEAFY GREEN",
    "aMANGOaMOON CAKEaBAGELaSMILING FACE WITH SMILING EYES AND THREE HEARTSaYAWNING FACE",
    "aSMILING FACE WITH TEARaFACE WITH PARTY HORN AND PARTY HATcUNEVEN EYES AND WAVY MOUTH",
    "aOVERHEATED FACEaFREEZING FACEaNINJAaDISGUISED FACEaFACE HOLDING BACK TEARS",
    "bWITH PLEADING EYESaSARIaLAB COATaGOGGLESaHIKING BOOTaFLAT SHOEaCRABaLION FACEaSCORPION",
    "aTURKEYaUNICORN FACEaEAGLEaDUCKaBATaSHARKaOWLaFOX FACEaBUTTERFLYaDEERaGORILLAaLIZARD",
    "aRHINOCEROSaSHRIMPaSQUIDaGIRAFFE FACEaZEBRA FACEaHEDGEHOGaSAUROPODaT-REXaCRICKETaKANGAROO",
    "aLLAMAaPEACOCKaHIPPOPOTAMUSaPARROTaRACCOONaLOBSTERaMOSQUITOaMICROBEaBADGERaSWANaMAMMOTH",
    "aDODOaSLOTHaOTTERaORANGUTANaSKUNKaFLAMINGOaOYSTERaBEAVERaBISONaSEALaGUIDE DOGaPROBING CANE",
    "aEMOJI COMPONENT RED HAIRcCURLY HAIRcBALDcWHITE HAIRaBONEaLEGaFOOTaTOOTHaSUPERHERO",
    "aSUPERVILLAINaSAFETY VESTaEAR WITH HEARING AIDaMOTORIZED WHEELCHAIRaMANUAL WHEELCHAIR",
    "aMECHANICAL ARMbLEGaCHEESE WEDGEaCUPCAKEaSALT SHAKERaBEVERAGE BOXaGARLICaONIONaFALAFEL",
    "aWAFFLEaBUTTERaMATE DRINKaICE CUBEaBUBBLE TEAaTROLLaSTANDING PERSONaKNEELING PERSON",
    "aDEAF PERSONaFACE WITH MONOCLEaADULTaCHILDaOLDER ADULTaBEARDED PERSONaPERSON WITH HEADSCARF",
    "bIN STEAMY ROOMbCLIMBINGbIN LOTUS POSITIONaMAGEaFAIRYaVAMPIREaMERPERSONaELFaGENIEaZOMBIE",
    "aBRAINaORANGE HEARTaBILLED CAPaSCARFaGLOVESaCOATaSOCKSaRED GIFT ENVELOPEaFIRECRACKER",
    "aJIGSAW PUZZLE PIECEaTEST TUBEaPETRI DISHaDNA DOUBLE HELIXaCOMPASSaABACUSaFIRE EXTINGUISHER",
    "aTOOLBOXaBRICKaMAGNETaLUGGAGEaLOTION BOTTLEaSPOOL OF THREADaBALL OF YARNaSAFETY PIN",
    "aTEDDY BEARaBROOMaBASKETaROLL OF PAPERaBAR OF SOAPaSPONGEaRECEIPTaNAZAR AMULET"]⟩,
  ⟨0x1FA00, [
    "aNEUTRAL CHESS KINGcQUEENcROOKcBISHOPcKNIGHTcPAWN",
    "aWHITE CHESS KNIGHT ROTATED FORTY-FIVE DEGREES",
    "aBLACK CHESS KNIGHT ROTATED FORTY-FIVE DEGREES",
    "aNEUTRAL CHESS KNIGHT ROTATED FORTY-FIVE DEGREESaWHITE CHESS KING ROTATED NINETY DEGREES",
    "cQUEEN ROTATED NINETY DEGREEScROOK ROTATED NINETY DEGREEScBISHOP ROTATED NINETY DEGREES",
    "cKNIGHT ROTATED NINETY DEGREEScPAWN ROTATED NINETY DEGREES",
    "aBLACK CHESS KING ROTATED NINETY DEGREEScQUEEN ROTATED NINETY DEGREES",
    "cROOK ROTATED NINETY DEGREEScBISHOP ROTATED NINETY DEGREEScKNIGHT ROTATED NINETY DEGREES",
    "cPAWN ROTATED NINETY DEGREESaNEUTRAL CHESS KING ROTATED NINETY DEGREES",
    "cQUEEN ROTATED NINETY DEGREEScROOK ROTATED NINETY DEGREEScBISHOP ROTATED NINETY DEGREES",
    "cKNIGHT ROTATED NINETY DEGREEScPAWN ROTATED NINETY DEGREES",
    "aWHITE CHESS KNIGHT ROTATED ONE HUNDRED THIRTY-FIVE DEGREES",
    "aBLACK CHESS KNIGHT ROTATED ONE HUNDRED THIRTY-FIVE DEGREES",
    "aNEUTRAL CHESS KNIGHT ROTATED ONE HUNDRED THIRTY-FIVE DEGREESaWHITE CHESS TURNED KINGdQUEEN",
    "dROOKdBISHOPdKNIGHTdPAWNaBLACK CHESS TURNED KINGdQUEENdROOKdBISHOPdKNIGHTdPAWN",
    "aNEUTRAL CHESS TURNED KINGdQUEENdROOKdBISHOPdKNIGHTdPAWN",
    "aWHITE CHESS KNIGHT ROTATED TWO HUNDRED TWENTY-FIVE DEGREES",
    "aBLACK CHESS KNIGHT ROTATED TWO HUNDRED TWENTY-FIVE DEGREES",
    "aNEUTRAL CHESS KNIGHT ROTATED TWO HUNDRED TWENTY-FIVE DEGREES",
    "aWHITE CHESS KING ROTATED TWO HUNDRED SEVENTY DEGREES",
    "cQUEEN ROTATED TWO HUNDRED SEVENTY DEGREEScROOK ROTATED TWO HUNDRED SEVENTY DEGREES",
    "cBISHOP ROTATED TWO HUNDRED SEVENTY DEGREEScKNIGHT ROTATED TWO HUNDRED SEVENTY DEGREES",
    "cPAWN ROTATED TWO HUNDRED SEVENTY DEGREES",
    "aBLACK CHESS KING ROTATED TWO HUNDRED SEVENTY DEGREES",
    "cQUEEN ROTATED TWO HUNDRED SEVENTY DEGREEScROOK ROTATED TWO HUNDRED SEVENTY DEGREES",
    "cBISHOP ROTATED TWO HUNDRED SEVENTY DEGREEScKNIGHT ROTATED TWO HUNDRED SEVENTY DEGREES",
    "cPAWN ROTATED TWO HUNDRED SEVENTY DEGREES",
    "aNEUTRAL CHESS KING ROTATED TWO HUNDRED SEVENTY DEGREES",
    "cQUEEN ROTATED TWO HUNDRED SEVENTY DEGREEScROOK ROTATED TWO HUNDRED SEVENTY DEGREES",
    "cBISHOP ROTATED TWO HUNDRED SEVENTY DEGREEScKNIGHT ROTATED TWO HUNDRED SEVENTY DEGREES",
    "cPAWN ROTATED TWO HUNDRED SEVENTY DEGREES",
    "aWHITE CHESS KNIGHT ROTATED THREE HUNDRED FIFTEEN DEGREES",
    "aBLACK CHESS KNIGHT ROTATED THREE HUNDRED FIFTEEN DEGREES",
    "aNEUTRAL CHESS KNIGHT ROTATED THREE HUNDRED FIFTEEN DEGREESaWHITE CHESS EQUIHOPPER",
    "aBLACK CHESS EQUIHOPPERaNEUTRAL CHESS EQUIHOPPER",
    "aWHITE CHESS EQUIHOPPER ROTATED NINETY DEGREES",
    "aBLACK CHESS EQUIHOPPER ROTATED NINETY DEGREES",
    "aNEUTRAL CHESS EQUIHOPPER ROTATED NINETY DEGREESaWHITE CHESS KNIGHT-QUEENdROOKdBISHOP",
    "aBLACK CHESS KNIGHT-QUEENdROOKdBISHOP............aXIANGQI RED GENERALcMANDARINcELEPHANT",
    "cHORSEcCHARIOTcCANNONcSOLDIERbBLACK GENERALcMANDARINcELEPHANTcHORSEcCHARIOTcCANNONcSOLDIER.",
    ".aBALLET SHOESaONE-PIECE SWIMSUITaBRIEFSaSHORTSaTHONG SANDAL...aDROP OF BLOOD",
    "aADHESIVE BANDAGEaSTETHOSCOPEaX-RAYaCRUTCH...aYO-YOaKITEaPARACHUTEaBOOMERANGaMAGIC WAND",
    "aPINATAaNESTING DOLLS.........aRINGED PLANETaCHAIRaRAZORaAXEaDIYA LAMPaBANJO",
    "aMILITARY HELMETaACCORDIONaLONG DRUMaCOINaCARPENTRY SAWaSCREWDRIVERaLADDERaHOOKaMIRROR",
    "aWINDOWaPLUNGERaSEWING NEEDLEaKNOTaBUCKETaMOUSE TRAPaTOOTHBRUSHaHEADSTONEaPLACARDaROCK",
    "aMIRROR BALLaIDENTIFICATION CARDaLOW BATTERYaHAMSA...aFLYaWORMaBEETLEaCOCKROACH",
    "aPOTTED PLANTaWOODaFEATHERaLOTUSaCORALaEMPTY NESTaNEST WITH EGGS.....aANATOMICAL HEART",
    "aLUNGSaPEOPLE HUGGINGaPREGNANT MANbPERSONaPERSON WITH CROWN..........aBLUEBERRIES",
    "aBELL PEPPERaOLIVEaFLATBREADaTAMALEaFONDUEaTEAPOTaPOURING LIQUIDaBEANSaJAR......",
    "aMELTING FACEaSALUTING FACEaFACE WITH OPEN EYES AND HAND OVER MOUTHcPEEKING EYE",
    "cDIAGONAL MOUTHaDOTTED LINE FACEaBITING LIPaBUBBLES........",
    "aHAND WITH INDEX FINGER AND THUMB CROSSEDaRIGHTWARDS HANDaLEFTWARDS HANDaPALM DOWN HAND",
    "bUP HANDaINDEX POINTING AT THE VIEWERaHEART HANDS"]⟩,
  ⟨0x1FB00, [
    "aBLOCK SEXTANT-1c2c12c3c13c23c123c4c14c24c124c34c134c234c1234c5c15c25c125c35c235c1235c45",
    "c145c245c1245c345c1345c2345c12345c6c16c26c126c36c136c236c1236c46c146c1246c346c1346c2346",
    "c12346c56c156c256c1256c356c1356c2356c12356c456c1456c2456c12456c3456c13456c23456",
    "aLOWER LEFT BLOCK DIAGONAL LOWER MIDDLE LEFT TO LOWER CENTREjRIGHT",
    "eUPPER MIDDLE LEFT TO LOWER CENTREjRIGHTfLEFT TO LOWER CENTRE",
    "bRIGHT BLOCK DIAGONAL UPPER MIDDLE LEFT TO UPPER CENTREjRIGHT",
    "eLOWER MIDDLE LEFT TO UPPER CENTREjRIGHTfLEFT TO UPPER CENTRE",
    "fMIDDLE LEFT TO UPPER MIDDLE RIGHTfCENTRE TO LOWER MIDDLE RIGHTfLEFT TO LOWER MIDDLE RIGHT",
    "fCENTRE TO UPPER MIDDLE RIGHTfLEFT TO UPPER MIDDLE RIGHTfCENTRE TO UPPER RIGHT",
    "bLEFT BLOCK DIAGONAL UPPER CENTRE TO UPPER MIDDLE RIGHTfLEFT TO UPPER MIDDLE RIGHT",
    "fCENTRE TO LOWER MIDDLE RIGHTfLEFT TO LOWER MIDDLE RIGHTfCENTRE TO LOWER RIGHT",
    "fMIDDLE LEFT TO LOWER MIDDLE RIGHT",
    "aUPPER RIGHT BLOCK DIAGONAL LOWER MIDDLE LEFT TO LOWER CENTREjRIGHT",
    "eUPPER MIDDLE LEFT TO LOWER CENTREjRIGHTfLEFT TO LOWER CENTRE",
    "bLEFT BLOCK DIAGONAL UPPER MIDDLE LEFT TO UPPER CENTREjRIGHT",
    "eLOWER MIDDLE LEFT TO UPPER CENTREjRIGHTfLEFT TO UPPER CENTRE",
    "fMIDDLE LEFT TO UPPER MIDDLE RIGHTfCENTRE TO LOWER MIDDLE RIGHTfLEFT TO LOWER MIDDLE RIGHT",
    "fCENTRE TO UPPER MIDDLE RIGHTfLEFT TO UPPER MIDDLE RIGHTfCENTRE TO UPPER RIGHT",
    "bRIGHT BLOCK DIAGONAL UPPER CENTRE TO UPPER MIDDLE RIGHTfLEFT TO UPPER MIDDLE RIGHT",
    "fCENTRE TO LOWER MIDDLE RIGHTfLEFT TO LOWER MIDDLE RIGHTfCENTRE TO LOWER RIGHT",
    "fMIDDLE LEFT TO LOWER MIDDLE RIGHTbAND RIGHT AND LOWER TRIANGULAR THREE QUARTERS BLOCK",
    "aLEFT AND LOWER AND RIGHT TRIANGULAR THREE QUARTERS BLOCK",
    "aUPPER AND LEFT AND LOWER TRIANGULAR THREE QUARTERS BLOCK",
    "aLEFT AND UPPER AND RIGHT TRIANGULAR THREE QUARTERS BLOCKbTRIANGULAR ONE QUARTER BLOCK",
    "aUPPER TRIANGULAR ONE QUARTER BLOCKaRIGHT TRIANGULAR ONE QUARTER BLOCK",
    "aLOWER TRIANGULAR ONE QUARTER BLOCKaVERTICAL ONE EIGHTH BLOCK-2e3e4e5e6e7",
    "aHORIZONTAL ONE EIGHTH BLOCK-2e3e4e5e6e7aLEFT AND LOWER ONE EIGHTH BLOCK",
    "cUPPER ONE EIGHTH BLOCKaRIGHT AND UPPER ONE EIGHTH BLOCKcLOWER ONE EIGHTH BLOCK",
    "aUPPER AND LOWER ONE EIGHTH BLOCKaHORIZONTAL ONE EIGHTH BLOCK-1358aUPPER ONE QUARTER BLOCK",
    "bTHREE EIGHTHS BLOCKbFIVE EIGHTHS BLOCKbTHREE QUARTERS BLOCKbSEVEN EIGHTHS BLOCK",
    "aRIGHT ONE QUARTER BLOCKbTHREE EIGHTHS BLOCKbFIVE EIGHTHS BLOCKbTHREE QUARTERS BLOCK",
    "bSEVEN EIGHTHS BLOCKaLEFT HALF MEDIUM SHADEaRIGHT HALF MEDIUM SHADEaUPPER HALF MEDIUM SHADE",
    "aLOWER HALF MEDIUM SHADEaINVERSE MEDIUM SHADE",
    "aUPPER HALF BLOCK AND LOWER HALF INVERSE MEDIUM SHADE",
    "cINVERSE MEDIUM SHADE AND LOWER HALF BLOCK.",
    "aLEFT HALF INVERSE MEDIUM SHADE AND RIGHT HALF BLOCKaCHECKER BOARD FILL",
    "aINVERSE CHECKER BOARD FILLaHEAVY HORIZONTAL FILLaUPPER LEFT TO LOWER RIGHT FILL",
    "bRIGHT TO LOWER LEFT FILLbAND LOWER TRIANGULAR HALF BLOCK",
    "aLEFT AND RIGHT TRIANGULAR HALF BLOCKaUPPER LEFT TRIANGULAR MEDIUM SHADE",
    "bRIGHT TRIANGULAR MEDIUM SHADEaLOWER RIGHT TRIANGULAR MEDIUM SHADE",
    "bLEFT TRIANGULAR MEDIUM SHADEaBOX DRAWINGS LIGHT DIAGONAL UPPER CENTRE TO MIDDLE LEFTiRIGHT",
    "eMIDDLE LEFT TO LOWER CENTREfRIGHT TO LOWER CENTRE",
    "eUPPER CENTRE TO MIDDLE LEFT TO LOWER CENTREiRIGHT TO LOWER CENTRE",
    "eMIDDLE LEFT TO LOWER CENTRE TO MIDDLE RIGHThUPPER CENTRE TO MIDDLE RIGHT",
    "eUPPER CENTRE TO MIDDLE LEFT AND MIDDLE RIGHT TO LOWER CENTRE",
    "iRIGHT AND MIDDLE LEFT TO LOWER CENTREjTO LOWER CENTRE TO MIDDLE LEFT",
    "iLEFT TO LOWER CENTRE TO MIDDLE RIGHT",
    "eMIDDLE LEFT TO UPPER CENTRE TO MIDDLE RIGHT TO LOWER CENTRE",
    "fRIGHT TO UPPER CENTRE TO MIDDLE LEFT TO LOWER CENTREeDIAMOND",
    "dHORIZONTAL WITH VERTICAL STROKEaARROWHEAD-SHAPED POINTERaINVERSE CHECK MARK",
    "aLEFT HALF RUNNING MANaRIGHT HALF RUNNING MANaINVERSE DOWNWARDS ARROW WITH TIP LEFTWARDS",
    "aLEFTWARDS ARROW AND UPPER AND LOWER ONE EIGHTH BLOCK",
    "aRIGHTWARDS ARROW AND UPPER AND LOWER ONE EIGHTH BLOCK",
    "aDOWNWARDS ARROW AND RIGHT ONE EIGHTH BLOCKaUPWARDS ARROW AND RIGHT ONE EIGHTH BLOCK",
    "aLEFT HALF FOLDERaRIGHT HALF FOLDERaVOIDED GREEK CROSSaRIGHT OPEN SQUARED DOT",
    "aNEGATIVE DIAGONAL CROSScMIDDLE RIGHT TO LOWER CENTREcDIAMOND",
    "aWHITE HEAVY SALTIRE WITH ROUNDED CORNERSaLEFT THIRD WHITE RIGHT POINTING INDEX",
    "aMIDDLE THIRD WHITE RIGHT POINTING INDEXaRIGHT THIRD WHITE RIGHT POINTING INDEX",
    "aNEGATIVE SQUARED QUESTION MARKaSTICK FIGUREbFIGURE WITH ARMS RAISEDcLEANING LEFTdRIGHT",
    "cWITH DRESSaWHITE UP-POINTING CHEVRON"]⟩,
  ⟨0x1FBF0, ["aSEGMENTED DIGIT ZEROcONEcTWOcTHREEcFOURcFIVEcSIXcSEVENcEIGHTcNINE"]⟩,
  ⟨0xE0001, ["aLANGUAGE TAG"]⟩,
  ⟨0xE0020, [
    "aTAG SPACEbEXCLAMATION MARKbQUOTATION MARKbNUMBER SIGNbDOLLAR SIGNbPERCENT SIGNbAMPERSAND",
    "bAPOSTROPHEbLEFT PARENTHESISbRIGHT PARENTHESISbASTERISKbPLUS SIGNbCOMMAbHYPHEN-MINUS",
    "bFULL STOPbSOLIDUSbDIGIT ZEROcONEcTWOcTHREEcFOURcFIVEcSIXcSEVENcEIGHTcNINEbCOLONbSEMICOLON",
    "bLESS-THAN SIGNbEQUALS SIGNbGREATER-THAN SIGNbQUESTION MARKbCOMMERCIAL AT",
    "bLATIN CAPITAL LETTER AeBeCeDeEeFeGeHeIeJeKeLeMeNeOePeQeReSeTeUeVeWeXeYeZ",
    "bLEFT SQUARE BRACKETbREVERSE SOLIDUSbRIGHT SQUARE BRACKETbCIRCUMFLEX ACCENTbLOW LINE",
    "bGRAVE ACCENTbLATIN SMALL LETTER AeBeCeDeEeFeGeHeIeJeKeLeMeNeOePeQeReSeTeUeVeWeXeYeZ",
    "bLEFT CURLY BRACKETbVERTICAL LINEbRIGHT CURLY BRACKETbTILDEaCANCEL TAG"]⟩,
  ⟨0xE0100, [
    "aVARIATION SELECTOR-17c18c19c20c21c22c23c24c25c26c27c28c29c30c31c32c33c34c35c36c37c38c39c40",
    "c41c42c43c44c45c46c47c48c49c50c51c52c53c54c55c56c57c58c59c60c61c62c63c64c65c66c67c68c69c70",
    "c71c72c73c74c75c76c77c78c79c80c81c82c83c84c85c86c87c88c89c90c91c92c93c94c95c96c97c98c99c100",
    "c101c102c103c104c105c106c107c108c109c110c111c112c113c114c115c116c117c118c119c120c121c122",
    "c123c124c125c126c127c128c129c130c131c132c133c134c135c136c137c138c139c140c141c142c143c144",
    "c145c146c147c148c149c150c151c152c153c154c155c156c157c158c159c160c161c162c163c164c165c166",
    "c167c168c169c170c171c172c173c174c175c176c177c178c179c180c181c182c183c184c185c186c187c188",
    "c189c190c191c192c193c194c195c196c197c198c199c200c201c202c203c204c205c206c207c208c209c210",
    "c211c212c213c214c215c216c217c218c219c220c221c222c223c224c225c226c227c228c229c230c231c232",
    "c233c234c235c236c237c238c239c240c241c242c243c244c245c246c247c248c249c250c251c252c253c254",
    "c255c256"]⟩]

end LogHarvest.Text.Table
