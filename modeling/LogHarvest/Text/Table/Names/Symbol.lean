import LogHarvest.Text.Table.NameRun

/-!
# Names: punctuation, signs and symbols
-/

namespace LogHarvest.Text.Table

def symbolNames : List NameRun := [
  ⟨0x2000, [
    "aEN QUADaEM QUADaEN SPACEaEM SPACEaTHREE-PER-EM SPACEaFOUR-PER-EM SPACEaSIX-PER-EM SPACE",
    "aFIGURE SPACEaPUNCTUATION SPACEaTHIN SPACEaHAIR SPACEaZERO WIDTH SPACEcNON-JOINERcJOINER",
    "aLEFT-TO-RIGHT MARKaRIGHT-TO-LEFT MARKaHYPHENaNON-BREAKING HYPHENaFIGURE DASHaEN DASH",
    "aEM DASHaHORIZONTAL BARaDOUBLE VERTICAL LINEbLOW LINEaLEFT SINGLE QUOTATION MARK",
    "aRIGHT SINGLE QUOTATION MARKaSINGLE LOW-9 QUOTATION MARKbHIGH-REVERSED-9 QUOTATION MARK",
    "aLEFT DOUBLE QUOTATION MARKaRIGHT DOUBLE QUOTATION MARKaDOUBLE LOW-9 QUOTATION MARK",
    "bHIGH-REVERSED-9 QUOTATION MARKaDAGGERaDOUBLE DAGGERaBULLETaTRIANGULAR BULLET",
    "aONE DOT LEADERaTWO DOT LEADERaHORIZONTAL ELLIPSISaHYPHENATION POINTaLINE SEPARATOR",
    "aPARAGRAPH SEPARATORaLEFT-TO-RIGHT EMBEDDINGaRIGHT-TO-LEFT EMBEDDING",
    "aPOP DIRECTIONAL FORMATTINGaLEFT-TO-RIGHT OVERRIDEaRIGHT-TO-LEFT OVERRIDE",
    "aNARROW NO-BREAK SPACEaPER MILLE SIGNbTEN THOUSAND SIGNaPRIMEaDOUBLE PRIMEaTRIPLE PRIME",
    "aREVERSED PRIMEbDOUBLE PRIMEbTRIPLE PRIMEaCARETaSINGLE LEFT-POINTING ANGLE QUOTATION MARK",
    "bRIGHT-POINTING ANGLE QUOTATION MARKaREFERENCE MARKaDOUBLE EXCLAMATION MARKaINTERROBANG",
    "aOVERLINEaUNDERTIEaCHARACTER TIEaCARET INSERTION POINTaASTERISMaHYPHEN BULLET",
    "aFRACTION SLASHaLEFT SQUARE BRACKET WITH QUILLaRIGHT SQUARE BRACKET WITH QUILL",
    "aDOUBLE QUESTION MARKaQUESTION EXCLAMATION MARKaEXCLAMATION QUESTION MARKaTIRONIAN SIGN ET",
    "aREVERSED PILCROW SIGNaBLACK LEFTWARDS BULLETbRIGHTWARDS BULLETaLOW ASTERISK",
    "aREVERSED SEMICOLONaCLOSE UPaTWO ASTERISKS ALIGNED VERTICALLYaCOMMERCIAL MINUS SIGN",
    "aSWUNG DASHaINVERTED UNDERTIEaFLOWER PUNCTUATION MARKaTHREE DOT PUNCTUATIONaQUADRUPLE PRIME",
    "aFOUR DOT PUNCTUATIONaFIVE DOT PUNCTUATIONaTWO DOT PUNCTUATIONaFOUR DOT MARKaDOTTED CROSS",
    "aTRICOLONaVERTICAL FOUR DOTSaMEDIUM MATHEMATICAL SPACEaWORD JOINERaFUNCTION APPLICATION",
    "aINVISIBLE TIMESbSEPARATORbPLUS.aLEFT-TO-RIGHT ISOLATEaRIGHT-TO-LEFT ISOLATE",
    "aFIRST STRONG ISOLATEaPOP DIRECTIONAL ISOLATEaINHIBIT SYMMETRIC SWAPPING",
    "aACTIVATE SYMMETRIC SWAPPINGaINHIBIT ARABIC FORM SHAPINGaACTIVATE ARABIC FORM SHAPING",
    "aNATIONAL DIGIT SHAPESaNOMINAL DIGIT SHAPESaSUPERSCRIPT ZERObLATIN SMALL LETTER I..bFOUR",
    "bFIVEbSIXbSEVENbEIGHTbNINEbPLUS SIGNbMINUSbEQUALS SIGNbLEFT PARENTHESISbRIGHT PARENTHESIS",
    "bLATIN SMALL LETTER NaSUBSCRIPT ZERObONEbTWObTHREEbFOURbFIVEbSIXbSEVENbEIGHTbNINEbPLUS SIGN",
    "bMINUSbEQUALS SIGNbLEFT PARENTHESISbRIGHT PARENTHESIS.aLATIN SUBSCRIPT SMALL LETTER AeEeOeX",
    "eSCHWAeHeKeLeMeNePeSeT...aEURO-CURRENCY SIGNaCOLON SIGNaCRUZEIRO SIGNaFRENCH FRANC SIGN",
    "aLIRA SIGNaMILL SIGNaNAIRA SIGNaPESETA SIGNaRUPEE SIGNaWON SIGNaNEW SHEQEL SIGNaDONG SIGN",
    "aEURO SIGNaKIP SIGNaTUGRIK SIGNaDRACHMA SIGNaGERMAN PENNY SIGNaPESO SIGNaGUARANI SIGN",
    "aAUSTRAL SIGNaHRYVNIA SIGNaCEDI SIGNaLIVRE TOURNOIS SIGNaSPESMILO SIGNaTENGE SIGN",
    "aINDIAN RUPEE SIGNaTURKISH LIRA SIGNaNORDIC MARK SIGNaMANAT SIGNaRUBLE SIGNaLARI SIGN",
    "aBITCOIN SIGNaSOM SIGN...............aCOMBINING LEFT HARPOON ABOVEbRIGHT HARPOON ABOVE",
    "bLONG VERTICAL LINE OVERLAYbSHORT VERTICAL LINE OVERLAYbANTICLOCKWISE ARROW ABOVE",
    "bCLOCKWISE ARROW ABOVEbLEFT ARROW ABOVEbRIGHT ARROW ABOVEbRING OVERLAY",
    "bCLOCKWISE RING OVERLAYbANTICLOCKWISE RING OVERLAYbTHREE DOTS ABOVEbFOUR DOTS ABOVE",
    "bENCLOSING CIRCLEcSQUAREcDIAMONDcCIRCLE BACKSLASHbLEFT RIGHT ARROW ABOVEbENCLOSING SCREEN",
    "cKEYCAPcUPWARD POINTING TRIANGLEbREVERSE SOLIDUS OVERLAYbDOUBLE VERTICAL STROKE OVERLAY",
    "bANNUITY SYMBOLbTRIPLE UNDERDOTbWIDE BRIDGE ABOVEbLEFTWARDS ARROW OVERLAY",
    "bLONG DOUBLE SOLIDUS OVERLAYbRIGHTWARDS HARPOON WITH BARB DOWNWARDS",
    "bLEFTWARDS HARPOON WITH BARB DOWNWARDSbLEFT ARROW BELOWbRIGHT ARROW BELOWbASTERISK ABOVE"]⟩,
  ⟨0x2100, [
    "aACCOUNT OFaADDRESSED TO THE SUBJECTaDOUBLE-STRUCK CAPITAL CaDEGREE CELSIUS",
    "aCENTRE LINE SYMBOLaCARE OFaCADA UNAaEULER CONSTANTaSCRUPLEaDEGREE FAHRENHEIT",
    "aSCRIPT SMALL GbCAPITAL HaBLACK-LETTER CAPITAL HaDOUBLE-STRUCK CAPITAL HaPLANCK CONSTANT",
    "bCONSTANT OVER TWO PIaSCRIPT CAPITAL IaBLACK-LETTER CAPITAL IaSCRIPT CAPITAL LbSMALL L",
    "aL B BAR SYMBOLaDOUBLE-STRUCK CAPITAL NaNUMERO SIGNaSOUND RECORDING COPYRIGHT",
    "aSCRIPT CAPITAL PaDOUBLE-STRUCK CAPITAL PdQaSCRIPT CAPITAL RaBLACK-LETTER CAPITAL R",
    "aDOUBLE-STRUCK CAPITAL RaPRESCRIPTION TAKEaRESPONSEaSERVICE MARKaTELEPHONE SIGN",
    "aTRADE MARK SIGNaVERSICLEaDOUBLE-STRUCK CAPITAL ZaOUNCE SIGNaOHM SIGNaINVERTED OHM SIGN",
    "aBLACK-LETTER CAPITAL ZaTURNED GREEK SMALL LETTER IOTAaKELVIN SIGNaANGSTROM SIGN",
    "aSCRIPT CAPITAL BaBLACK-LETTER CAPITAL CaESTIMATED SYMBOLaSCRIPT SMALL EbCAPITAL EcF",
    "aTURNED CAPITAL FaSCRIPT CAPITAL MbSMALL OaALEF SYMBOLaBET SYMBOLaGIMEL SYMBOLaDALET SYMBOL",
    "aINFORMATION SOURCEaROTATED CAPITAL QaFACSIMILE SIGNaDOUBLE-STRUCK SMALL PIdGAMMA",
    "cCAPITAL GAMMAdPIcN-ARY SUMMATIONaTURNED SANS-SERIF CAPITAL GeL",
    "aREVERSED SANS-SERIF CAPITAL LaTURNED SANS-SERIF CAPITAL YaDOUBLE-STRUCK ITALIC CAPITAL D",
    "dSMALL DeEeIeJaPROPERTY LINEaTURNED AMPERSANDaPER SIGNaAKTIESELSKABaTURNED SMALL F",
    "aSYMBOL FOR SAMARITAN SOURCEaVULGAR FRACTION ONE SEVENTHdNINTHdTENTHdTHIRDcTWO THIRDS",
    "cONE FIFTHcTWO FIFTHScTHREE FIFTHScFOUR FIFTHScONE SIXTHcFIVE SIXTHScONE EIGHTH",
    "cTHREE EIGHTHScFIVE EIGHTHScSEVEN EIGHTHSaFRACTION NUMERATOR ONEaROMAN NUMERAL ONEcTWO",
    "cTHREEcFOURcFIVEcSIXcSEVENcEIGHTcNINEcTENcELEVENcTWELVEcFIFTYcONE HUNDREDcFIVE HUNDRED",
    "cONE THOUSANDaSMALL ROMAN NUMERAL ONEdTWOdTHREEdFOURdFIVEdSIXdSEVENdEIGHTdNINEdTENdELEVEN",
    "dTWELVEdFIFTYdONE HUNDREDdFIVE HUNDREDdONE THOUSANDaROMAN NUMERAL ONE THOUSAND C D",
    "cFIVE THOUSANDcTEN THOUSANDcREVERSED ONE HUNDREDaLATIN SMALL LETTER REVERSED C",
    "aROMAN NUMERAL SIX LATE FORMcFIFTY EARLY FORMdTHOUSANDcONE HUNDRED THOUSAND",
    "aVULGAR FRACTION ZERO THIRDSaTURNED DIGIT TWOcTHREE....aLEFTWARDS ARROWaUPWARDS ARROW",
    "aRIGHTWARDS ARROWaDOWNWARDS ARROWaLEFT RIGHT ARROWaUP DOWN ARROWaNORTH WEST ARROW",
    "bEAST ARROWaSOUTH EAST ARROWbWEST ARROWaLEFTWARDS ARROW WITH STROKE",
    "aRIGHTWARDS ARROW WITH STROKEaLEFTWARDS WAVE ARROWaRIGHTWARDS WAVE ARROW",
    "aLEFTWARDS TWO HEADED ARROWaUPWARDS TWO HEADED ARROWaRIGHTWARDS TWO HEADED ARROW",
    "aDOWNWARDS TWO HEADED ARROWaLEFTWARDS ARROW WITH TAILaRIGHTWARDS ARROW WITH TAIL",
    "aLEFTWARDS ARROW FROM BARaUPWARDS ARROW FROM BARaRIGHTWARDS ARROW FROM BAR",
    "aDOWNWARDS ARROW FROM BARaUP DOWN ARROW WITH BASEaLEFTWARDS ARROW WITH HOOK",
    "aRIGHTWARDS ARROW WITH HOOKaLEFTWARDS ARROW WITH LOOPaRIGHTWARDS ARROW WITH LOOP",
    "aLEFT RIGHT WAVE ARROWcARROW WITH STROKEaDOWNWARDS ZIGZAG ARROW",
    "aUPWARDS ARROW WITH TIP LEFTWARDSeRIGHTWARDSaDOWNWARDS ARROW WITH TIP LEFTWARDSeRIGHTWARDS",
    "aRIGHTWARDS ARROW WITH CORNER DOWNWARDSaDOWNWARDS ARROW WITH CORNER LEFTWARDS",
    "aANTICLOCKWISE TOP SEMICIRCLE ARROWaCLOCKWISE TOP SEMICIRCLE ARROW",
    "aNORTH WEST ARROW TO LONG BARaLEFTWARDS ARROW TO BAR OVER RIGHTWARDS ARROW TO BAR",
    "aANTICLOCKWISE OPEN CIRCLE ARROWaCLOCKWISE OPEN CIRCLE ARROW",
    "aLEFTWARDS HARPOON WITH BARB UPWARDSeDOWNWARDSaUPWARDS HARPOON WITH BARB RIGHTWARDS",
    "eLEFTWARDSaRIGHTWARDS HARPOON WITH BARB UPWARDSeDOWNWARDS",
    "aDOWNWARDS HARPOON WITH BARB RIGHTWARDSeLEFTWARDSaRIGHTWARDS ARROW OVER LEFTWARDS ARROW",
    "aUPWARDS ARROW LEFTWARDS OF DOWNWARDS ARROWaLEFTWARDS ARROW OVER RIGHTWARDS ARROW",
    "bPAIRED ARROWSaUPWARDS PAIRED ARROWSaRIGHTWARDS PAIRED ARROWSaDOWNWARDS PAIRED ARROWS",
    "aLEFTWARDS HARPOON OVER RIGHTWARDS HARPOONaRIGHTWARDS HARPOON OVER LEFTWARDS HARPOON",
    "aLEFTWARDS DOUBLE ARROW WITH STROKEaLEFT RIGHT DOUBLE ARROW WITH STROKE",
    "aRIGHTWARDS DOUBLE ARROW WITH STROKEaLEFTWARDS DOUBLE ARROWaUPWARDS DOUBLE ARROW",
    "aRIGHTWARDS DOUBLE ARROWaDOWNWARDS DOUBLE ARROWaLEFT RIGHT DOUBLE ARROW",
    "aUP DOWN DOUBLE ARROWaNORTH WEST DOUBLE ARROWbEAST DOUBLE ARROWaSOUTH EAST DOUBLE ARROW",
    "bWEST DOUBLE ARROWaLEFTWARDS TRIPLE ARROWaRIGHTWARDS TRIPLE ARROWaLEFTWARDS SQUIGGLE ARROW",
    "aRIGHTWARDS SQUIGGLE ARROWaUPWARDS ARROW WITH DOUBLE STROKE",
    "aDOWNWARDS ARROW WITH DOUBLE STROKEaLEFTWARDS DASHED ARROWaUPWARDS DASHED ARROW",
    "aRIGHTWARDS DASHED ARROWaDOWNWARDS DASHED ARROWaLEFTWARDS ARROW TO BAR",
    "aRIGHTWARDS ARROW TO BARaLEFTWARDS WHITE ARROWaUPWARDS WHITE ARROWaRIGHTWARDS WHITE ARROW",
    "aDOWNWARDS WHITE ARROWaUPWARDS WHITE ARROW FROM BARdON PEDESTAL",
    "ePEDESTAL WITH HORIZONTAL BARgVERTICAL BARcDOUBLE ARROWdARROW ON PEDESTAL",
    "aRIGHTWARDS WHITE ARROW FROM WALLaNORTH WEST ARROW TO CORNERaSOUTH EAST ARROW TO CORNER",
    "aUP DOWN WHITE ARROWaRIGHT ARROW WITH SMALL CIRCLE",
    "aDOWNWARDS ARROW LEFTWARDS OF UPWARDS ARROWaTHREE RIGHTWARDS ARROWS",
    "aLEFTWARDS ARROW WITH VERTICAL STROKEaRIGHTWARDS ARROW WITH VERTICAL STROKE",
    "aLEFT RIGHT ARROW WITH VERTICAL STROKEaLEFTWARDS ARROW WITH DOUBLE VERTICAL STROKE",
    "aRIGHTWARDS ARROW WITH DOUBLE VERTICAL STROKEaLEFT RIGHT ARROW WITH DOUBLE VERTICAL STROKE",
    "aLEFTWARDS OPEN-HEADED ARROWaRIGHTWARDS OPEN-HEADED ARROWaLEFT RIGHT OPEN-HEADED ARROW"]⟩,
  ⟨0x2200, [
    "aFOR ALLaCOMPLEMENTaPARTIAL DIFFERENTIALaTHERE EXISTSbDOES NOT EXISTaEMPTY SETaINCREMENT",
    "aNABLAaELEMENT OFaNOT AN ELEMENT OFaSMALL ELEMENT OFaCONTAINS AS MEMBER",
    "aDOES NOT CONTAIN AS MEMBERaSMALL CONTAINS AS MEMBERaEND OF PROOFaN-ARY PRODUCTcCOPRODUCT",
    "cSUMMATIONaMINUS SIGNaMINUS-OR-PLUS SIGNaDOT PLUSaDIVISION SLASHaSET MINUS",
    "aASTERISK OPERATORaRING OPERATORaBULLET OPERATORaSQUARE ROOTaCUBE ROOTaFOURTH ROOT",
    "aPROPORTIONAL TOaINFINITYaRIGHT ANGLEaANGLEaMEASURED ANGLEaSPHERICAL ANGLEaDIVIDES",
    "aDOES NOT DIVIDEaPARALLEL TOaNOT PARALLEL TOaLOGICAL ANDbORaINTERSECTIONaUNIONaINTEGRAL",
    "aDOUBLE INTEGRALaTRIPLE INTEGRALaCONTOUR INTEGRALaSURFACE INTEGRALaVOLUME INTEGRAL",
    "aCLOCKWISE INTEGRALbCONTOUR INTEGRALaANTICLOCKWISE CONTOUR INTEGRALaTHEREFOREaBECAUSEaRATIO",
    "aPROPORTIONaDOT MINUSaEXCESSaGEOMETRIC PROPORTIONaHOMOTHETICaTILDE OPERATORaREVERSED TILDE",
    "aINVERTED LAZY SaSINE WAVEaWREATH PRODUCTaNOT TILDEaMINUS TILDEaASYMPTOTICALLY EQUAL TO",
    "aNOT ASYMPTOTICALLY EQUAL TOaAPPROXIMATELY EQUAL TObBUT NOT ACTUALLY EQUAL TO",
    "aNEITHER APPROXIMATELY NOR ACTUALLY EQUAL TOaALMOST EQUAL TOaNOT ALMOST EQUAL TO",
    "aALMOST EQUAL OR EQUAL TOaTRIPLE TILDEaALL EQUAL TOaEQUIVALENT TO",
    "aGEOMETRICALLY EQUIVALENT TOaDIFFERENCE BETWEENaAPPROACHES THE LIMITaGEOMETRICALLY EQUAL TO",
    "aAPPROXIMATELY EQUAL TO OR THE IMAGE OFaIMAGE OF OR APPROXIMATELY EQUAL TOaCOLON EQUALS",
    "aEQUALS COLONaRING IN EQUAL TObEQUAL TOaCORRESPONDS TOaESTIMATESaEQUIANGULAR TOaSTAR EQUALS",
    "aDELTA EQUAL TOaEQUAL TO BY DEFINITIONaMEASURED BYaQUESTIONED EQUAL TOaNOT EQUAL TO",
    "aIDENTICAL TOaNOT IDENTICAL TOaSTRICTLY EQUIVALENT TOaLESS-THAN OR EQUAL TO",
    "aGREATER-THAN OR EQUAL TOaLESS-THAN OVER EQUAL TOaGREATER-THAN OVER EQUAL TO",
    "aLESS-THAN BUT NOT EQUAL TOaGREATER-THAN BUT NOT EQUAL TOaMUCH LESS-THANbGREATER-THAN",
    "aBETWEENaNOT EQUIVALENT TObLESS-THANbGREATER-THANaNEITHER LESS-THAN NOR EQUAL TO",
    "bGREATER-THAN NOR EQUAL TOaLESS-THAN OR EQUIVALENT TOaGREATER-THAN OR EQUIVALENT TO",
    "aNEITHER LESS-THAN NOR EQUIVALENT TObGREATER-THAN NOR EQUIVALENT TO",
    "aLESS-THAN OR GREATER-THANaGREATER-THAN OR LESS-THANaNEITHER LESS-THAN NOR GREATER-THAN",
    "bGREATER-THAN NOR LESS-THANaPRECEDESaSUCCEEDSaPRECEDES OR EQUAL TOaSUCCEEDS OR EQUAL TO",
    "aPRECEDES OR EQUIVALENT TOaSUCCEEDS OR EQUIVALENT TOaDOES NOT PRECEDEcSUCCEEDaSUBSET OF",
    "aSUPERSET OFaNOT A SUBSET OFcSUPERSET OFaSUBSET OF OR EQUAL TOaSUPERSET OF OR EQUAL TO",
    "aNEITHER A SUBSET OF NOR EQUAL TOcSUPERSET OF NOR EQUAL TOaSUBSET OF WITH NOT EQUAL TO",
    "aSUPERSET OF WITH NOT EQUAL TOaMULTISETaMULTISET MULTIPLICATIONbUNIONaSQUARE IMAGE OF",
    "bORIGINAL OFbIMAGE OF OR EQUAL TObORIGINAL OF OR EQUAL TObCAPbCUPaCIRCLED PLUSbMINUSbTIMES",
    "bDIVISION SLASHbDOT OPERATORbRING OPERATORbASTERISK OPERATORbEQUALSbDASHaSQUARED PLUSbMINUS",
    "bTIMESbDOT OPERATORaRIGHT TACKaLEFT TACKaDOWN TACKaUP TACKaASSERTIONaMODELSaTRUEaFORCES",
    "aTRIPLE VERTICAL BAR RIGHT TURNSTILEaDOUBLE VERTICAL BAR DOUBLE RIGHT TURNSTILE",
    "aDOES NOT PROVEaNOT TRUEaDOES NOT FORCEaNEGATED DOUBLE VERTICAL BAR DOUBLE RIGHT TURNSTILE",
    "aPRECEDES UNDER RELATIONaSUCCEEDS UNDER RELATIONaNORMAL SUBGROUP OF",
    "aCONTAINS AS NORMAL SUBGROUPaNORMAL SUBGROUP OF OR EQUAL TO",
    "aCONTAINS AS NORMAL SUBGROUP OR EQUAL TOaORIGINAL OFaIMAGE OFaMULTIMAP",
    "aHERMITIAN CONJUGATE MATRIXaINTERCALATEaXORaNANDaNORaRIGHT ANGLE WITH ARCbTRIANGLE",
    "aN-ARY LOGICAL ANDdORcINTERSECTIONcUNIONaDIAMOND OPERATORaDOT OPERATORaSTAR OPERATOR",
    "aDIVISION TIMESaBOWTIEaLEFT NORMAL FACTOR SEMIDIRECT PRODUCT",
    "aRIGHT NORMAL FACTOR SEMIDIRECT PRODUCTaLEFT SEMIDIRECT PRODUCTaRIGHT SEMIDIRECT PRODUCT",
    "aREVERSED TILDE EQUALSaCURLY LOGICAL ORcANDaDOUBLE SUBSETbSUPERSETbINTERSECTIONbUNION",
    "aPITCHFORKaEQUAL AND PARALLEL TOaLESS-THAN WITH DOTaGREATER-THAN WITH DOT",
    "aVERY MUCH LESS-THANcGREATER-THANaLESS-THAN EQUAL TO OR GREATER-THAN",
    "aGREATER-THAN EQUAL TO OR LESS-THANaEQUAL TO OR LESS-THANdGREATER-THANdPRECEDESdSUCCEEDS",
    "aDOES NOT PRECEDE OR EQUALcSUCCEED OR EQUALaNOT SQUARE IMAGE OF OR EQUAL TO",
    "cORIGINAL OF OR EQUAL TOaSQUARE IMAGE OF OR NOT EQUAL TObORIGINAL OF OR NOT EQUAL TO",
    "aLESS-THAN BUT NOT EQUIVALENT TOaGREATER-THAN BUT NOT EQUIVALENT TO",
    "aPRECEDES BUT NOT EQUIVALENT TOaSUCCEEDS BUT NOT EQUIVALENT TOaNOT NORMAL SUBGROUP OF",
    "aDOES NOT CONTAIN AS NORMAL SUBGROUPaNOT NORMAL SUBGROUP OF OR EQUAL TO",
    "aDOES NOT CONTAIN AS NORMAL SUBGROUP OR EQUALaVERTICAL ELLIPSISaMIDLINE HORIZONTAL ELLIPSIS",
    "aUP RIGHT DIAGONAL ELLIPSISaDOWN RIGHT DIAGONAL ELLIPSIS",
    "aELEMENT OF WITH LONG HORIZONTAL STROKEdVERTICAL BAR AT END OF HORIZONTAL STROKE",
    "aSMALL ELEMENT OF WITH VERTICAL BAR AT END OF HORIZONTAL STROKEaELEMENT OF WITH DOT ABOVE",
    "dOVERBARaSMALL ELEMENT OF WITH OVERBARaELEMENT OF WITH UNDERBARdTWO HORIZONTAL STROKES",
    "aCONTAINS WITH LONG HORIZONTAL STROKEcVERTICAL BAR AT END OF HORIZONTAL STROKE",
    "aSMALL CONTAINS WITH VERTICAL BAR AT END OF HORIZONTAL STROKEaCONTAINS WITH OVERBAR",
    "aSMALL CONTAINS WITH OVERBARaZ NOTATION BAG MEMBERSHIP"]⟩,
  ⟨0x2300, [
    "aDIAMETER SIGNaELECTRIC ARROWaHOUSEaUP ARROWHEADaDOWN ARROWHEADaPROJECTIVEaPERSPECTIVE",
    "aWAVY LINEaLEFT CEILINGaRIGHT CEILINGaLEFT FLOORaRIGHT FLOORaBOTTOM RIGHT CROPbLEFT CROP",
    "aTOP RIGHT CROPbLEFT CROPaREVERSED NOT SIGNaSQUARE LOZENGEaARCaSEGMENTaSECTOR",
    "aTELEPHONE RECORDERaPOSITION INDICATORaVIEWDATA SQUAREaPLACE OF INTEREST SIGN",
    "aTURNED NOT SIGNaWATCHaHOURGLASSaTOP LEFT CORNERbRIGHT CORNERaBOTTOM LEFT CORNER",
    "bRIGHT CORNERaTOP HALF INTEGRALaBOTTOM HALF INTEGRALaFROWNaSMILE",
    "aUP ARROWHEAD BETWEEN TWO HORIZONTAL BARSaOPTION KEYaERASE TO THE RIGHT",
    "aX IN A RECTANGLE BOXaKEYBOARDaLEFT-POINTING ANGLE BRACKETaRIGHT-POINTING ANGLE BRACKET",
    "aERASE TO THE LEFTaBENZENE RINGaCYLINDRICITYaALL AROUND-PROFILEaSYMMETRYaTOTAL RUNOUT",
    "aDIMENSION ORIGINaCONICAL TAPERaSLOPEaCOUNTERBOREaCOUNTERSINKaAPL FUNCTIONAL SYMBOL I-BEAM",
    "dSQUISH QUADdQUAD EQUALeDIVIDEeDIAMONDeJOTeCIRCLEdCIRCLE STILEeJOTdSLASH BARdBACKSLASH BAR",
    "dQUAD SLASHeBACKSLASHeLESS-THANeGREATER-THANdLEFTWARDS VANEdRIGHTWARDS VANE",
    "dQUAD LEFTWARDS ARROWeRIGHTWARDS ARROWdCIRCLE BACKSLASHdDOWN TACK UNDERBARdDELTA STILE",
    "dQUAD DOWN CARETeDELTAdDOWN TACK JOTdUPWARDS VANEdQUAD UPWARDS ARROWdUP TACK OVERBAR",
    "dDEL STILEdQUAD UP CARETeDELdUP TACK JOTdDOWNWARDS VANEdQUAD DOWNWARDS ARROWdQUOTE UNDERBAR",
    "dDELTA UNDERBARdDIAMOND UNDERBARdJOT UNDERBARdCIRCLE UNDERBARdUP SHOE JOTdQUOTE QUAD",
    "dCIRCLE STARdQUAD COLONdUP TACK DIAERESISdDEL DIAERESISdSTAR DIAERESISdJOT DIAERESIS",
    "dCIRCLE DIAERESISdDOWN SHOE STILEdLEFT SHOE STILEdTILDE DIAERESISdGREATER-THAN DIAERESIS",
    "dCOMMA BARdDEL TILDEdZILDEdSTILE TILDEdSEMICOLON UNDERBARdQUAD NOT EQUALeQUESTION",
    "dDOWN CARET TILDEdUP CARET TILDEdIOTAdRHOdOMEGAdALPHA UNDERBARdEPSILON UNDERBAR",
    "dIOTA UNDERBARdOMEGA UNDERBARdALPHAaNOT CHECK MARKaRIGHT ANGLE WITH DOWNWARDS ZIGZAG ARROW",
    "aSHOULDERED OPEN BOXaBELL SYMBOLaVERTICAL LINE WITH MIDDLE DOTaINSERTION SYMBOL",
    "aCONTINUOUS UNDERLINE SYMBOLaDISCONTINUOUS UNDERLINE SYMBOLaEMPHASIS SYMBOL",
    "aCOMPOSITION SYMBOLaWHITE SQUARE WITH CENTRE VERTICAL LINEaENTER SYMBOL",
    "aALTERNATIVE KEY SYMBOLaHELM SYMBOLaCIRCLED HORIZONTAL BAR WITH NOTCHbTRIANGLE DOWN",
    "aBROKEN CIRCLE WITH NORTHWEST ARROWaUNDO SYMBOLaMONOSTABLE SYMBOLaHYSTERESIS SYMBOL",
    "aOPEN-CIRCUIT-OUTPUT H-TYPE SYMBOLdL-TYPE SYMBOLaPASSIVE-PULL-DOWN-OUTPUT SYMBOL",
    "cUP-OUTPUT SYMBOLaDIRECT CURRENT SYMBOL FORM TWOaSOFTWARE-FUNCTION SYMBOL",
    "aAPL FUNCTIONAL SYMBOL QUADaDECIMAL SEPARATOR KEY SYMBOLaPREVIOUS PAGEaNEXT PAGE",
    "aPRINT SCREEN SYMBOLaCLEAR SCREEN SYMBOLaLEFT PARENTHESIS UPPER HOOKcEXTENSIONcLOWER HOOK",
    "aRIGHT PARENTHESIS UPPER HOOKcEXTENSIONcLOWER HOOKaLEFT SQUARE BRACKET UPPER CORNER",
    "dEXTENSIONdLOWER CORNERaRIGHT SQUARE BRACKET UPPER CORNERdEXTENSIONdLOWER CORNER",
    "aLEFT CURLY BRACKET UPPER HOOKdMIDDLE PIECEdLOWER HOOKaCURLY BRACKET EXTENSION",
    "aRIGHT CURLY BRACKET UPPER HOOKdMIDDLE PIECEdLOWER HOOKaINTEGRAL EXTENSION",
    "aHORIZONTAL LINE EXTENSIONaUPPER LEFT OR LOWER RIGHT CURLY BRACKET SECTION",
    "bRIGHT OR LOWER LEFT CURLY BRACKET SECTIONaSUMMATION TOPbBOTTOMaTOP SQUARE BRACKET",
    "aBOTTOM SQUARE BRACKETcBRACKET OVER TOP SQUARE BRACKETaRADICAL SYMBOL BOTTOM",
    "aLEFT VERTICAL BOX LINEaRIGHT VERTICAL BOX LINEaHORIZONTAL SCAN LINE-1d3d7d9",
    "aDENTISTRY SYMBOL LIGHT VERTICAL AND TOP RIGHTfBOTTOM RIGHTeWITH CIRCLE",
    "dDOWN AND HORIZONTAL WITH CIRCLEdUP AND HORIZONTAL WITH CIRCLEdVERTICAL WITH TRIANGLE",
    "dDOWN AND HORIZONTAL WITH TRIANGLEdUP AND HORIZONTAL WITH TRIANGLEdVERTICAL AND WAVE",
    "dDOWN AND HORIZONTAL WITH WAVEdUP AND HORIZONTAL WITH WAVEdDOWN AND HORIZONTAL",
    "dUP AND HORIZONTALdVERTICAL AND TOP LEFTfBOTTOM LEFTaSQUARE FOOTaRETURN SYMBOLaEJECT SYMBOL",
    "aVERTICAL LINE EXTENSIONaMETRICAL BREVEbLONG OVER SHORTbSHORT OVER LONG",
    "bLONG OVER TWO SHORTSbTWO SHORTS OVER LONGdJOINEDbTRISEMEbTETRASEMEbPENTASEMEaEARTH GROUND",
    "aFUSEaTOP PARENTHESISaBOTTOM PARENTHESISaTOP CURLY BRACKETaBOTTOM CURLY BRACKET",
    "aTOP TORTOISE SHELL BRACKETaBOTTOM TORTOISE SHELL BRACKETaWHITE TRAPEZIUM",
    "aBENZENE RING WITH CIRCLEaSTRAIGHTNESSaFLATNESSaAC CURRENTaELECTRICAL INTERSECTION",
    "aDECIMAL EXPONENT SYMBOLaBLACK RIGHT-POINTING DOUBLE TRIANGLEbLEFT-POINTING DOUBLE TRIANGLE",
    "bUP-POINTING DOUBLE TRIANGLEbDOWN-POINTING DOUBLE TRIANGLE",
    "bRIGHT-POINTING DOUBLE TRIANGLE WITH VERTICAL BAR",
    "bLEFT-POINTING DOUBLE TRIANGLE WITH VERTICAL BAR",
    "bRIGHT-POINTING TRIANGLE WITH DOUBLE VERTICAL BARaALARM CLOCKaSTOPWATCHaTIMER CLOCK",
    "aHOURGLASS WITH FLOWING SANDaBLACK MEDIUM LEFT-POINTING TRIANGLEcRIGHT-POINTING TRIANGLE",
    "cUP-POINTING TRIANGLEcDOWN-POINTING TRIANGLEaDOUBLE VERTICAL BARaBLACK SQUARE FOR STOP",
    "bCIRCLE FOR RECORDaPOWER SYMBOLbON-OFF SYMBOLbON SYMBOLbSLEEP SYMBOLaOBSERVER EYE SYMBOL"]⟩,
  ⟨0x2400, [
    "aSYMBOL FOR NULLcSTART OF HEADINGeTEXTcEND OF TEXTeTRANSMISSIONcENQUIRYcACKNOWLEDGEcBELL",
    "cBACKSPACEcHORIZONTAL TABULATIONcLINE FEEDcVERTICAL TABULATIONcFORM FEEDcCARRIAGE RETURN",
    "cSHIFT OUTdINcDATA LINK ESCAPEcDEVICE CONTROL ONEeTWOeTHREEeFOURcNEGATIVE ACKNOWLEDGE",
    "cSYNCHRONOUS IDLEcEND OF TRANSMISSION BLOCKcCANCELcEND OF MEDIUMcSUBSTITUTEcESCAPE",
    "cFILE SEPARATORcGROUP SEPARATORcRECORD SEPARATORcUNIT SEPARATORcSPACEcDELETEaBLANK SYMBOL",
    "aOPEN BOXaSYMBOL FOR NEWLINEcDELETE FORM TWOcSUBSTITUTE FORM TWO"]⟩,
  ⟨0x2440, [
    "aOCR HOOKbCHAIRbFORKbINVERTED FORKbBELT BUCKLEbBOW TIEbBRANCH BANK IDENTIFICATION",
    "bAMOUNT OF CHECKbDASHbCUSTOMER ACCOUNT NUMBERbDOUBLE BACKSLASH.....................",
    "aCIRCLED DIGIT ONEcTWOcTHREEcFOURcFIVEcSIXcSEVENcEIGHTcNINEbNUMBER TENcELEVENcTWELVE",
    "cTHIRTEENcFOURTEENcFIFTEENcSIXTEENcSEVENTEENcEIGHTEENcNINETEENcTWENTY",
    "aPARENTHESIZED DIGIT ONEcTWOcTHREEcFOURcFIVEcSIXcSEVENcEIGHTcNINEbNUMBER TENcELEVENcTWELVE",
    "cTHIRTEENcFOURTEENcFIFTEENcSIXTEENcSEVENTEENcEIGHTEENcNINETEENcTWENTYaDIGIT ONE FULL STOP",
    "bTWO FULL STOPbTHREE FULL STOPbFOUR FULL STOPbFIVE FULL STOPbSIX FULL STOPbSEVEN FULL STOP",
    "bEIGHT FULL STOPbNINE FULL STOPaNUMBER TEN FULL STOPbELEVEN FULL STOPbTWELVE FULL STOP",
    "bTHIRTEEN FULL STOPbFOURTEEN FULL STOPbFIFTEEN FULL STOPbSIXTEEN FULL STOP",
    "bSEVENTEEN FULL STOPbEIGHTEEN FULL STOPbNINETEEN FULL STOPbTWENTY FULL STOP",
    "aPARENTHESIZED LATIN SMALL LETTER AeBeCeDeEeFeGeHeIeJeKeLeMeNeOePeQeReSeTeUeVeWeXeYeZ",
    "aCIRCLED LATIN CAPITAL LETTER AeBeCeDeEeFeGeHeIeJeKeLeMeNeOePeQeReSeTeUeVeWeXeYeZ",
    "cSMALL LETTER AeBeCeDeEeFeGeHeIeJeKeLeMeNeOePeQeReSeTeUeVeWeXeYeZbDIGIT ZERO",
    "aNEGATIVE CIRCLED NUMBER ELEVENdTWELVEdTHIRTEENdFOURTEENdFIFTEENdSIXTEENdSEVENTEENdEIGHTEEN",
    "dNINETEENdTWENTYaDOUBLE CIRCLED DIGIT ONEdTWOdTHREEdFOURdFIVEdSIXdSEVENdEIGHTdNINE",
    "cNUMBER TENaNEGATIVE CIRCLED DIGIT ZERO"]⟩,
  ⟨0x2500, [
    "aBOX DRAWINGS LIGHT HORIZONTALcHEAVY HORIZONTALcLIGHT VERTICALcHEAVY VERTICAL",
    "cLIGHT TRIPLE DASH HORIZONTALcHEAVY TRIPLE DASH HORIZONTALcLIGHT TRIPLE DASH VERTICAL",
    "cHEAVY TRIPLE DASH VERTICALcLIGHT QUADRUPLE DASH HORIZONTALcHEAVY QUADRUPLE DASH HORIZONTAL",
    "cLIGHT QUADRUPLE DASH VERTICALcHEAVY QUADRUPLE DASH VERTICALcLIGHT DOWN AND RIGHT",
    "cDOWN LIGHT AND RIGHT HEAVYdHEAVY AND RIGHT LIGHTcHEAVY DOWN AND RIGHTcLIGHT DOWN AND LEFT",
    "cDOWN LIGHT AND LEFT HEAVYdHEAVY AND LEFT LIGHTcHEAVY DOWN AND LEFTcLIGHT UP AND RIGHT",
    "cUP LIGHT AND RIGHT HEAVYdHEAVY AND RIGHT LIGHTcHEAVY UP AND RIGHTcLIGHT UP AND LEFT",
    "cUP LIGHT AND LEFT HEAVYdHEAVY AND LEFT LIGHTcHEAVY UP AND LEFTcLIGHT VERTICAL AND RIGHT",
    "cVERTICAL LIGHT AND RIGHT HEAVYcUP HEAVY AND RIGHT DOWN LIGHTcDOWN HEAVY AND RIGHT UP LIGHT",
    "cVERTICAL HEAVY AND RIGHT LIGHTcDOWN LIGHT AND RIGHT UP HEAVYcUP LIGHT AND RIGHT DOWN HEAVY",
    "cHEAVY VERTICAL AND RIGHTcLIGHT VERTICAL AND LEFTcVERTICAL LIGHT AND LEFT HEAVY",
    "cUP HEAVY AND LEFT DOWN LIGHTcDOWN HEAVY AND LEFT UP LIGHTcVERTICAL HEAVY AND LEFT LIGHT",
    "cDOWN LIGHT AND LEFT UP HEAVYcUP LIGHT AND LEFT DOWN HEAVYcHEAVY VERTICAL AND LEFT",
    "cLIGHT DOWN AND HORIZONTALcLEFT HEAVY AND RIGHT DOWN LIGHTcRIGHT HEAVY AND LEFT DOWN LIGHT",
    "cDOWN LIGHT AND HORIZONTAL HEAVYdHEAVY AND HORIZONTAL LIGHTcRIGHT LIGHT AND LEFT DOWN HEAVY",
    "cLEFT LIGHT AND RIGHT DOWN HEAVYcHEAVY DOWN AND HORIZONTALcLIGHT UP AND HORIZONTAL",
    "cLEFT HEAVY AND RIGHT UP LIGHTcRIGHT HEAVY AND LEFT UP LIGHTcUP LIGHT AND HORIZONTAL HEAVY",
    "dHEAVY AND HORIZONTAL LIGHTcRIGHT LIGHT AND LEFT UP HEAVYcLEFT LIGHT AND RIGHT UP HEAVY",
    "cHEAVY UP AND HORIZONTALcLIGHT VERTICAL AND HORIZONTALcLEFT HEAVY AND RIGHT VERTICAL LIGHT",
    "cRIGHT HEAVY AND LEFT VERTICAL LIGHTcVERTICAL LIGHT AND HORIZONTAL HEAVY",
    "cUP HEAVY AND DOWN HORIZONTAL LIGHTcDOWN HEAVY AND UP HORIZONTAL LIGHT",
    "cVERTICAL HEAVY AND HORIZONTAL LIGHTcLEFT UP HEAVY AND RIGHT DOWN LIGHT",
    "cRIGHT UP HEAVY AND LEFT DOWN LIGHTcLEFT DOWN HEAVY AND RIGHT UP LIGHT",
    "cRIGHT DOWN HEAVY AND LEFT UP LIGHTcDOWN LIGHT AND UP HORIZONTAL HEAVY",
    "cUP LIGHT AND DOWN HORIZONTAL HEAVYcRIGHT LIGHT AND LEFT VERTICAL HEAVY",
    "cLEFT LIGHT AND RIGHT VERTICAL HEAVYcHEAVY VERTICAL AND HORIZONTAL",
    "cLIGHT DOUBLE DASH HORIZONTALcHEAVY DOUBLE DASH HORIZONTALcLIGHT DOUBLE DASH VERTICAL",
    "cHEAVY DOUBLE DASH VERTICALcDOUBLE HORIZONTALdVERTICALcDOWN SINGLE AND RIGHT DOUBLE",
    "dDOUBLE AND RIGHT SINGLEcDOUBLE DOWN AND RIGHTcDOWN SINGLE AND LEFT DOUBLE",
    "dDOUBLE AND LEFT SINGLEcDOUBLE DOWN AND LEFTcUP SINGLE AND RIGHT DOUBLE",
    "dDOUBLE AND RIGHT SINGLEcDOUBLE UP AND RIGHTcUP SINGLE AND LEFT DOUBLE",
    "dDOUBLE AND LEFT SINGLEcDOUBLE UP AND LEFTcVERTICAL SINGLE AND RIGHT DOUBLE",
    "dDOUBLE AND RIGHT SINGLEcDOUBLE VERTICAL AND RIGHTcVERTICAL SINGLE AND LEFT DOUBLE",
    "dDOUBLE AND LEFT SINGLEcDOUBLE VERTICAL AND LEFTcDOWN SINGLE AND HORIZONTAL DOUBLE",
    "dDOUBLE AND HORIZONTAL SINGLEcDOUBLE DOWN AND HORIZONTALcUP SINGLE AND HORIZONTAL DOUBLE",
    "dDOUBLE AND HORIZONTAL SINGLEcDOUBLE UP AND HORIZONTAL",
    "cVERTICAL SINGLE AND HORIZONTAL DOUBLEdDOUBLE AND HORIZONTAL SINGLE",
    "cDOUBLE VERTICAL AND HORIZONTALcLIGHT ARC DOWN AND RIGHTgLEFTeUP AND LEFTgRIGHT",
    "dDIAGONAL UPPER RIGHT TO LOWER LEFTfLEFT TO LOWER RIGHTeCROSSdLEFTdUPdRIGHTdDOWNcHEAVY LEFT",
    "dUPdRIGHTdDOWNcLIGHT LEFT AND HEAVY RIGHTdUP AND HEAVY DOWNcHEAVY LEFT AND LIGHT RIGHT",
    "dUP AND LIGHT DOWNaUPPER HALF BLOCKaLOWER ONE EIGHTH BLOCKcQUARTER BLOCK",
    "bTHREE EIGHTHS BLOCKbHALF BLOCKbFIVE EIGHTHS BLOCKbTHREE QUARTERS BLOCKbSEVEN EIGHTHS BLOCK",
    "aFULL BLOCKaLEFT SEVEN EIGHTHS BLOCKbTHREE QUARTERS BLOCKbFIVE EIGHTHS BLOCKbHALF BLOCK",
    "bTHREE EIGHTHS BLOCKbONE QUARTER BLOCKcEIGHTH BLOCKaRIGHT HALF BLOCKaLIGHT SHADE",
    "aMEDIUM SHADEaDARK SHADEaUPPER ONE EIGHTH BLOCKaRIGHT ONE EIGHTH BLOCKaQUADRANT LOWER LEFT",
    "cRIGHTbUPPER LEFTcLEFT AND LOWER LEFT AND LOWER RIGHTfRIGHTeUPPER RIGHT AND LOWER LEFT",
    "iRIGHTcRIGHTcRIGHT AND LOWER LEFTfLEFT AND LOWER RIGHTaBLACK SQUAREaWHITE SQUARE",
    "bSQUARE WITH ROUNDED CORNERScCONTAINING BLACK SMALL SQUAREaSQUARE WITH HORIZONTAL FILL",
    "cVERTICAL FILLcORTHOGONAL CROSSHATCH FILLcUPPER LEFT TO LOWER RIGHT FILL",
    "dRIGHT TO LOWER LEFT FILLcDIAGONAL CROSSHATCH FILLaBLACK SMALL SQUAREaWHITE SMALL SQUARE",
    "aBLACK RECTANGLEaWHITE RECTANGLEaBLACK VERTICAL RECTANGLEaWHITE VERTICAL RECTANGLE",
    "aBLACK PARALLELOGRAMaWHITE PARALLELOGRAMaBLACK UP-POINTING TRIANGLE",
    "aWHITE UP-POINTING TRIANGLEaBLACK UP-POINTING SMALL TRIANGLE",
    "aWHITE UP-POINTING SMALL TRIANGLEaBLACK RIGHT-POINTING TRIANGLE",
    "aWHITE RIGHT-POINTING TRIANGLEaBLACK RIGHT-POINTING SMALL TRIANGLE",
    "aWHITE RIGHT-POINTING SMALL TRIANGLEaBLACK RIGHT-POINTING POINTER",
    "aWHITE RIGHT-POINTING POINTERaBLACK DOWN-POINTING TRIANGLEaWHITE DOWN-POINTING TRIANGLE",
    "aBLACK DOWN-POINTING SMALL TRIANGLEaWHITE DOWN-POINTING SMALL TRIANGLE",
    "aBLACK LEFT-POINTING TRIANGLEaWHITE LEFT-POINTING TRIANGLE",
    "aBLACK LEFT-POINTING SMALL TRIANGLEaWHITE LEFT-POINTING SMALL TRIANGLE",
    "aBLACK LEFT-POINTING POINTERaWHITE LEFT-POINTING POINTERaBLACK DIAMONDaWHITE DIAMOND",
    "bDIAMOND CONTAINING BLACK SMALL DIAMONDaFISHEYEaLOZENGEaWHITE CIRCLEaDOTTED CIRCLE",
    "aCIRCLE WITH VERTICAL FILLaBULLSEYEaBLACK CIRCLEaCIRCLE WITH LEFT HALF BLACK",
    "cRIGHT HALF BLACKcLOWER HALF BLACKcUPPER HALF BLACKdRIGHT QUADRANT BLACK",
    "cALL BUT UPPER LEFT QUADRANT BLACKaLEFT HALF BLACK CIRCLEaRIGHT HALF BLACK CIRCLE",
    "aINVERSE BULLETbWHITE CIRCLEaUPPER HALF INVERSE WHITE CIRCLE",
    "aLOWER HALF INVERSE WHITE CIRCLEaUPPER LEFT QUADRANT CIRCULAR ARC",
    "bRIGHT QUADRANT CIRCULAR ARCaLOWER RIGHT QUADRANT CIRCULAR ARCbLEFT QUADRANT CIRCULAR ARC",
    "aUPPER HALF CIRCLEaLOWER HALF CIRCLEaBLACK LOWER RIGHT TRIANGLEcLEFT TRIANGLE",
    "bUPPER LEFT TRIANGLEcRIGHT TRIANGLEaWHITE BULLETaSQUARE WITH LEFT HALF BLACK",
    "cRIGHT HALF BLACKcUPPER LEFT DIAGONAL HALF BLACKcLOWER RIGHT DIAGONAL HALF BLACK",
    "aWHITE SQUARE WITH VERTICAL BISECTING LINEbUP-POINTING TRIANGLE WITH DOT",
    "aUP-POINTING TRIANGLE WITH LEFT HALF BLACKeRIGHT HALF BLACKaLARGE CIRCLE",
    "aWHITE SQUARE WITH UPPER LEFT QUADRANTdLOWER LEFT QUADRANTeRIGHT QUADRANT",
    "dUPPER RIGHT QUADRANTbCIRCLE WITH UPPER LEFT QUADRANTdLOWER LEFT QUADRANTeRIGHT QUADRANT",
    "dUPPER RIGHT QUADRANTaUPPER LEFT TRIANGLEbRIGHT TRIANGLEaLOWER LEFT TRIANGLE",
    "aWHITE MEDIUM SQUAREaBLACK MEDIUM SQUAREaWHITE MEDIUM SMALL SQUARE",
    "aBLACK MEDIUM SMALL SQUAREaLOWER RIGHT TRIANGLE"]⟩,
  ⟨0x2600, [
    "aBLACK SUN WITH RAYSaCLOUDaUMBRELLAaSNOWMANaCOMETaBLACK STARaWHITE STARaLIGHTNING",
    "aTHUNDERSTORMaSUNaASCENDING NODEaDESCENDING NODEaCONJUNCTIONaOPPOSITIONaBLACK TELEPHONE",
    "aWHITE TELEPHONEaBALLOT BOXbBOX WITH CHECKdXaSALTIREaUMBRELLA WITH RAIN DROPSaHOT BEVERAGE",
    "aWHITE SHOGI PIECEaBLACK SHOGI PIECEaSHAMROCKaREVERSED ROTATED FLORAL HEART BULLET",
    "aBLACK LEFT POINTING INDEXbRIGHT POINTING INDEXaWHITE LEFT POINTING INDEXbUP POINTING INDEX",
    "bRIGHT POINTING INDEXbDOWN POINTING INDEXaSKULL AND CROSSBONESaCAUTION SIGN",
    "aRADIOACTIVE SIGNaBIOHAZARD SIGNaCADUCEUSaANKHaORTHODOX CROSSaCHI RHOaCROSS OF LORRAINE",
    "cJERUSALEMaSTAR AND CRESCENTaFARSI SYMBOLaADI SHAKTIaHAMMER AND SICKLEaPEACE SYMBOL",
    "aYIN YANGaTRIGRAM FOR HEAVENcLAKEcFIREcTHUNDERcWINDcWATERcMOUNTAINcEARTHaWHEEL OF DHARMA",
    "aWHITE FROWNING FACEbSMILING FACEaBLACK SMILING FACEaWHITE SUN WITH RAYSaFIRST QUARTER MOON",
    "aLAST QUARTER MOONaMERCURYaFEMALE SIGNaEARTHaMALE SIGNaJUPITERaSATURNaURANUSaNEPTUNEaPLUTO",
    "aARIESaTAURUSaGEMINIaCANCERaLEOaVIRGOaLIBRAaSCORPIUSaSAGITTARIUSaCAPRICORNaAQUARIUSaPISCES",
    "aWHITE CHESS KINGcQUEENcROOKcBISHOPcKNIGHTcPAWNaBLACK CHESS KINGcQUEENcROOKcBISHOPcKNIGHT",
    "cPAWNbSPADE SUITaWHITE HEART SUITbDIAMOND SUITaBLACK CLUB SUITaWHITE SPADE SUIT",
    "aBLACK HEART SUITbDIAMOND SUITaWHITE CLUB SUITaHOT SPRINGSaQUARTER NOTEaEIGHTH NOTE",
    "aBEAMED EIGHTH NOTESbSIXTEENTH NOTESaMUSIC FLAT SIGNbNATURAL SIGNbSHARP SIGN",
    "aWEST SYRIAC CROSSaEAST SYRIAC CROSSaUNIVERSAL RECYCLING SYMBOL",
    "aRECYCLING SYMBOL FOR TYPE-1 PLASTICSe2 PLASTICSe3 PLASTICSe4 PLASTICSe5 PLASTICS",
    "e6 PLASTICSe7 PLASTICSdGENERIC MATERIALSaBLACK UNIVERSAL RECYCLING SYMBOL",
    "aRECYCLED PAPER SYMBOLaPARTIALLY-RECYCLED PAPER SYMBOLaPERMANENT PAPER SIGN",
    "aWHEELCHAIR SYMBOLaDIE FACE-1c2c3c4c5c6aWHITE CIRCLE WITH DOT RIGHTdTWO DOTS",
    "aBLACK CIRCLE WITH WHITE DOT RIGHTdTWO WHITE DOTSaMONOGRAM FOR YANGcYIN",
    "aDIGRAM FOR GREATER YANGcLESSER YINdYANGcGREATER YINaWHITE FLAGaBLACK FLAGaHAMMER AND PICK",
    "aANCHORaCROSSED SWORDSaSTAFF OF AESCULAPIUSaSCALESaALEMBICaFLOWERaGEARaSTAFF OF HERMES",
    "aATOM SYMBOLaFLEUR-DE-LISaOUTLINED WHITE STARaTHREE LINES CONVERGING RIGHTdLEFT",
    "aWARNING SIGNaHIGH VOLTAGE SIGNaDOUBLED FEMALE SIGNbMALE SIGN",
    "aINTERLOCKED FEMALE AND MALE SIGNaMALE AND FEMALE SIGNbWITH STROKE SIGN",
    "dAND MALE AND FEMALE SIGNaVERTICAL MALE WITH STROKE SIGNaHORIZONTAL MALE WITH STROKE SIGN",
    "aMEDIUM WHITE CIRCLEbBLACK CIRCLEbSMALL WHITE CIRCLEaMARRIAGE SYMBOLaDIVORCE SYMBOL",
    "aUNMARRIED PARTNERSHIP SYMBOLaCOFFINaFUNERAL URNaNEUTERaCERESaPALLASaJUNOaVESTAaCHIRON",
    "aBLACK MOON LILITHaSEXTILEaSEMISEXTILEaQUINCUNXaSESQUIQUADRATEaSOCCER BALLaBASEBALL",
    "aSQUARED KEYaWHITE DRAUGHTS MANcKINGaBLACK DRAUGHTS MANcKINGaSNOWMAN WITHOUT SNOW",
    "aSUN BEHIND CLOUDaRAINaBLACK SNOWMANaTHUNDER CLOUD AND RAINaTURNED WHITE SHOGI PIECE",
    "bBLACK SHOGI PIECEaWHITE DIAMOND IN SQUAREaCROSSING LANESaDISABLED CARaOPHIUCHUSaPICK",
    "aCAR SLIDINGaHELMET WITH WHITE CROSSaCIRCLED CROSSING LANESaCHAINSaNO ENTRY",
    "aALTERNATE ONE-WAY LEFT WAY TRAFFICaBLACK TWO-WAY LEFT WAY TRAFFIC",
    "aWHITE TWO-WAY LEFT WAY TRAFFICaBLACK LEFT LANE MERGEaWHITE LEFT LANE MERGEaDRIVE SLOW SIGN",
    "aHEAVY WHITE DOWN-POINTING TRIANGLEaLEFT CLOSED ENTRYaSQUARED SALTIRE",
    "aFALLING DIAGONAL IN WHITE CIRCLE IN BLACK SQUAREaBLACK TRUCKaRESTRICTED LEFT ENTRY-1d2",
    "aASTRONOMICAL SYMBOL FOR URANUSaHEAVY CIRCLE WITH STROKE AND TWO DOTS ABOVEaPENTAGRAM",
    "aRIGHT-HANDED INTERLACED PENTAGRAMaLEFT-HANDED INTERLACED PENTAGRAMaINVERTED PENTAGRAM",
    "aBLACK CROSS ON SHIELDaSHINTO SHRINEaCHURCHaCASTLEaHISTORIC SITEaGEAR WITHOUT HUB",
    "bWITH HANDLESaMAP SYMBOL FOR LIGHTHOUSEaMOUNTAINaUMBRELLA ON GROUNDaFOUNTAINaFLAG IN HOLE",
    "aFERRYaSAILBOATaSQUARE FOUR CORNERSaSKIERaICE SKATEaPERSON WITH BALLaTENT",
    "aJAPANESE BANK SYMBOLaHEADSTONE GRAVEYARD SYMBOLaFUEL PUMPaCUP ON BLACK SQUARE",
    "aWHITE FLAG WITH HORIZONTAL MIDDLE BLACK STRIPE"]⟩]

end LogHarvest.Text.Table
