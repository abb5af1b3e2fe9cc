/-!
# Names of characters from I to L

An outline in words: a lower-case letter starts each name and says how many
words the name shares with the one before it, `a` for none, `b` for one and so
on. The words that it does not share follow.
-/

namespace SecurityRules.CharacterName

def namesFromIToL : String :=
  "aI LOVE YOU HAND SIGN aICE CREAM bCUBE bHOCKEY STICK AND PUCK bSKATE aIDENTICAL TO cAND
    SLANTED PARALLEL bWITH DOT ABOVE aIDENTIFICATION CARD aIDEOGRAPHIC ANNOTATION BOTTOM MARK
    cEARTH MARK cFIRST MARK cFOUR MARK cFOURTH MARK cHEAVEN MARK cLINKING MARK cMAN MARK cMIDDLE
    MARK cONE MARK cREVERSE MARK cSECOND MARK cTHIRD MARK cTHREE MARK cTOP MARK cTWO MARK
    bCLOSING MARK bCOMMA bDEPARTING TONE MARK bDESCRIPTION CHARACTER ABOVE TO BELOW fMIDDLE AND
    BELOW dFULL SURROUND dLEFT TO MIDDLE AND RIGHT fRIGHT dOVERLAID dSURROUND FROM ABOVE fBELOW
    fLEFT fLOWER LEFT fUPPER LEFT gRIGHT bENTERING TONE MARK bFULL STOP bHALF FILL SPACE
    bITERATION MARK bLEVEL TONE MARK bNUMBER ZERO bRISING TONE MARK bSPACE bTALLY MARK FIVE
    dFOUR dONE dTHREE dTWO bTELEGRAPH LINE FEED SEPARATOR SYMBOL cSYMBOL FOR APRIL eAUGUST eDAY
    EIGHT fEIGHTEEN fELEVEN fFIFTEEN fFIVE fFOUR fFOURTEEN fNINE fNINETEEN fONE fSEVEN
    fSEVENTEEN fSIX fSIXTEEN fTEN fTHIRTEEN fTHIRTY fTHIRTY-ONE fTHREE fTWELVE fTWENTY
    fTWENTY-EIGHT fTWENTY-FIVE fTWENTY-FOUR fTWENTY-NINE fTWENTY-ONE fTWENTY-SEVEN fTWENTY-SIX
    fTWENTY-THREE fTWENTY-TWO fTWO eDECEMBER eFEBRUARY eHOUR EIGHT fEIGHTEEN fELEVEN fFIFTEEN
    fFIVE fFOUR fFOURTEEN fNINE fNINETEEN fONE fSEVEN fSEVENTEEN fSIX fSIXTEEN fTEN fTHIRTEEN
    fTHREE fTWELVE fTWENTY fTWENTY-FOUR fTWENTY-ONE fTWENTY-THREE fTWENTY-TWO fTWO fZERO
    eJANUARY eJULY eJUNE eMARCH eMAY eNOVEMBER eOCTOBER eSEPTEMBER bVARIATION INDICATOR aIMAGE
    OF cOR APPROXIMATELY EQUAL TO aIMP aIMPERIAL ARAMAIC LETTER ALEPH dAYIN dBETH dDALETH dGIMEL
    dHE dHETH dKAPH dLAMEDH dMEM dNUN dPE dQOPH dRESH dSADHE dSAMEKH dSHIN dTAW dTETH dWAW dYODH
    dZAYIN cNUMBER ONE eHUNDRED eTHOUSAND dTEN eTHOUSAND dTHREE dTWENTY dTWO cSECTION SIGN
    aINBOX TRAY aINCOMING ENVELOPE aINCOMPLETE INFINITY aINCREASE FONT SIZE SYMBOL aINCREASES AS
    aINCREMENT aIND aINDEX bPOINTING AT THE VIEWER aINDIAN RUPEE SIGN aINDIC SIYAQ ALTERNATE
    LAKH MARK cFRACTION ONE HALF eQUARTER dTHREE QUARTERS cLAKH MARK cNUMBER ALTERNATE ONE eTEN
    THOUSAND eTWO dEIGHT eHUNDRED eTHOUSAND dEIGHTY eTHOUSAND dFIFTY eTHOUSAND dFIVE eHUNDRED
    eTHOUSAND dFORTY eTHOUSAND dFOUR eHUNDRED eTHOUSAND dKAROR dKARORAN dLAKH dLAKHAN dNINE
    eHUNDRED eTHOUSAND dNINETY eTHOUSAND dONE eHUNDRED eTHOUSAND dPREFIXED EIGHT eFIVE eFOUR
    eNINE eONE eSEVEN eSIX eTHREE eTWO dSEVEN eHUNDRED eTHOUSAND dSEVENTY eTHOUSAND dSIX
    eHUNDRED eTHOUSAND dSIXTY eTHOUSAND dTEN eTHOUSAND dTHIRTY eTHOUSAND dTHREE eHUNDRED
    eTHOUSAND dTWENTY eTHOUSAND dTWO eHUNDRED eTHOUSAND cPLACEHOLDER cRUPEE MARK aINFINITY
    bNEGATED WITH VERTICAL BAR aINFORMATION DESK PERSON bSEPARATOR FOUR cONE cTHREE cTWO bSOURCE
    aINHIBIT ARABIC FORM SHAPING bSYMMETRIC SWAPPING aINPUT SYMBOL FOR LATIN CAPITAL LETTERS
    eLETTERS eSMALL LETTERS dNUMBERS dSYMBOLS aINSCRIPTIONAL PAHLAVI LETTER ALEPH dBETH dDALETH
    dGIMEL dHE dHETH dKAPH dLAMEDH dMEM-QOPH dNUN dPE dSADHE dSAMEKH dSHIN dTAW dTETH
    dWAW-AYIN-RESH dYODH dZAYIN cNUMBER FOUR dONE eHUNDRED eTHOUSAND dTEN dTHREE dTWENTY dTWO
    bPARTHIAN LETTER ALEPH dAYIN dBETH dDALETH dGIMEL dHE dHETH dKAPH dLAMEDH dMEM dNUN dPE
    dQOPH dRESH dSADHE dSAMEKH dSHIN dTAW dTETH dWAW dYODH dZAYIN cNUMBER FOUR dONE eHUNDRED
    eTHOUSAND dTEN dTHREE dTWENTY dTWO aINSERTION SYMBOL aINTEGRAL bAROUND A POINT OPERATOR
    bAVERAGE WITH SLASH bEXTENSION bWITH DOUBLE STROKE cINTERSECTION cLEFTWARDS ARROW WITH HOOK
    cOVERBAR cTIMES SIGN cUNDERBAR cUNION aINTERCALATE aINTERIOR PRODUCT aINTERLINEAR ANNOTATION
    ANCHOR cSEPARATOR cTERMINATOR aINTERLOCKED FEMALE AND MALE SIGN aINTERROBANG aINTERSECTION
    bABOVE BAR ABOVE UNION cUNION bBESIDE AND JOINED WITH INTERSECTION bWITH DOT cLOGICAL AND
    cOVERBAR aINVERSE BULLET bCHECK MARK bCHECKER BOARD FILL bDOWNWARDS ARROW WITH TIP LEFTWARDS
    bMEDIUM SHADE bWHITE CIRCLE aINVERTED EXCLAMATION MARK bINTERROBANG bLAZY S bLOW KAVYKA
    dWITH KAVYKA ABOVE bOHM SIGN bPENTAGRAM bQUESTION MARK bUNDERTIE aINVISIBLE PLUS bSEPARATOR
    bTIMES aIZAKAYA LANTERN aJACK-O-LANTERN aJAPANESE BANK SYMBOL bCASTLE bDOLLS bGOBLIN
    bINDUSTRIAL STANDARD SYMBOL bOGRE bPOST OFFICE bSYMBOL FOR BEGINNER aJAR aJAVANESE CONSONANT
    SIGN CAKRA dKERET dPENGKAL bDIGIT EIGHT cFIVE cFOUR cNINE cONE cSEVEN cSIX cTHREE cTWO cZERO
    bLEFT RERENGGAN bLETTER A cAI cBA dMURDA cCA dMURDA cDA dMAHAPRANA cDDA dMAHAPRANA cE cGA
    dMURDA cHA cI dKAWI cII cJA dMAHAPRANA cKA dMURDA dSASAK cLA cMA cNA dMURDA cNGA dLELET
    eRASWADI cNYA dMURDA cO cPA dCEREK dMURDA cRA dAGUNG cSA dMAHAPRANA dMURDA cTA dMURDA cTTA
    dMAHAPRANA cU cWA cYA bPADA ADEG dADEG cANDAP cISEN-ISEN cLINGSA cLUHUR cLUNGSI cMADYA
    cPANGKAT cPISELEH cTIRTA TUMETES cWINDU bPANGKON bPANGRANGKEP bRIGHT RERENGGAN bSIGN CECAK
    dTELU cLAYAR cPANYANGGA cWIGNYAN bTURNED PADA PISELEH bVOWEL SIGN DIRGA MURE dPEPET dSUKU
    eMENDUT dTALING dTARUNG dTOLONG dWULU eMELIK aJEANS aJIGSAW PUZZLE PIECE aJOIN aJOYSTICK
    aJUGGLING aJUNO aJUPITER aKAABA aKAITHI ABBREVIATION SIGN bDANDA bDOUBLE DANDA cSECTION MARK
    bENUMERATION SIGN bLETTER A cAA cAI cAU cBA cBHA cCA cCHA cDA cDDA cDDDHA cDDHA cDHA cE cGA
    cGHA cHA cI cII cJA cJHA cKA cKHA cLA cMA cNA cNGA cNNA cNYA cO cPA cPHA cRA cRHA cSA cSHA
    cSSA cTA cTHA cTTA cTTHA cU cUU cVA cYA bNUMBER SIGN dABOVE bSECTION MARK bSIGN ANUSVARA
    cCANDRABINDU cNUKTA cVIRAMA cVISARGA bVOWEL SIGN AA dAI dAU dE dI dII dO dU dUU dVOCALIC R
    aKANGAROO aKANGXI RADICAL AGAIN cAND cARRIVE cARROW cAXE cBADGER cBAMBOO cBEAN cBIG cBIRD
    cBITTER cBLACK cBLOOD cBLUE cBOAT cBODY cBOLT OF CLOTH cBONE cBOW cBRANCH cBRISTLE cBRUSH
    cCART cCAULDRON cCAVE cCHILD cCITY cCLAN cCLAW cCLIFF cCLOTHES cCOLOR cCOMPARE cCORPSE
    cCOVER cCOW cDEATH cDEER cDIPPER cDISH cDISTINGUISH cDIVINATION cDO NOT cDOG cDOOR cDOT
    cDOTTED CLIFF dTENT cDOUBLE X cDOWN BOX cDRAGON cDRUM cDRY cEAR cEARTH cEAT cEIGHT
    cEMBROIDERY cENCLOSURE cENTER cEVEN cEVENING cEYE cFACE cFANG cFATHER cFEATHER cFIELD cFIGHT
    cFIRE cFISH cFLUTE cFLY cFOOT cFRAGRANT cFROG cFUR cGATE cGHOST cGO dSLOWLY cGOLD cGRAIN
    cGRASS cHAIR cHALBERD cHALF TREE TRUNK cHAND cHEAD cHEART cHEMP cHIDING ENCLOSURE cHOOK
    cHORN cHORSE cICE cINCH cINSECT cJADE cJAR cKNIFE cLACK cLAME cLEAF cLEATHER cLEEK cLEGS
    cLID cLIFE cLINE cLONG dSTRIDE cMAN cMEAT cMELON cMILLET cMINISTER cMOON cMORNING cMORTAR
    cMOUND cMOUNTAIN cMOUTH cNET cNOSE cNOT cOLD cONE cONESELF cOPEN BOX cOPPOSE cPIG cPLOW
    cPOWER cPRIVATE cPROFOUND cRAIN cRAP cRAT cRED cRICE cRIGHT OPEN BOX cRIVER cROOF cRUN
    cSACRIFICIAL WINE cSALT cSAY cSCHOLAR cSCRIPT cSEAL cSECOND cSEE cSELF cSHEEP cSHELL cSHOOT
    cSHORT TAILED BIRD dTHREAD cSICKNESS cSILK cSKIN cSLASH cSLAVE cSLICE cSMALL cSNOUT cSOUND
    cSPEAR cSPEECH cSPIRIT cSPOON cSPROUT cSQUARE cSTAND cSTEAM cSTEP cSTONE cSTOP cSTOPPING
    cSUN cSWEET cTABLE cTALL cTANNED LEATHER cTEN cTIGER cTILE cTONGUE cTOOTH cTRACK cTREE
    cTRIPOD cTURBAN cTURTLE cTWO dHANDS cUSE cVALLEY cVILLAGE cWALK dENCLOSURE cWATER cWEAPON
    cWEST cWHEAT cWHITE cWIND cWINE cWOMAN cWORK cWRAP cWRONG cYELLOW aKANNADA AI LENGTH MARK
    bDIGIT EIGHT cFIVE cFOUR cNINE cONE cSEVEN cSIX cTHREE cTWO cZERO bLENGTH MARK bLETTER A cAA
    cAI cAU cBA cBHA cCA cCHA cDA cDDA cDDHA cDHA cE cEE cFA cGA cGHA cHA cI cII cJA cJHA cKA
    cKHA cLA cLLA cLLLA cMA cNA cNAKAARA POLLU cNGA cNNA cNYA cO cOO cPA cPHA cRA cRRA cSA cSHA
    cSSA cTA cTHA cTTA cTTHA cU cUU cVA cVOCALIC L dLL dR dRR cYA bSIGN ANUSVARA cAVAGRAHA
    cCANDRABINDU cJIHVAMULIYA cNUKTA cSIDDHAM cSPACING CANDRABINDU cUPADHMANIYA cVIRAMA cVISARGA
    bVOWEL SIGN AA dAI dAU dE dEE dI dII dO dOO dU dUU dVOCALIC L eLL eR eRR aKATAKANA DIGRAPH
    KOTO bITERATION MARK bLETTER A cARCHAIC E dWU dYE dYI cBA cBE cBI cBO cBU cDA cDE cDI cDO
    cDU cE cGA cGE cGI cGO cGU cHA cHE cHI cHO cHU cI cKA cKE cKI cKO cKU cMA cME cMI cMINNAN
    NASALIZED TONE-1 eTONE-2 eTONE-3 eTONE-4 eTONE-5 eTONE-7 eTONE-8 dTONE-2 dTONE-3 dTONE-4
    dTONE-5 dTONE-7 dTONE-8 cMO cMU cN cNA cNE cNI cNO cNU cO cPA cPE cPI cPO cPU cRA cRE cRI
    cRO cRU cSA cSE cSI cSMALL A dE dHA dHE dHI dHO dHU dI dKA dKE dKU dMU dN dNU dO dRA dRE dRI
    dRO dRU dSI dSU dTO dTU dU dWA dWE dWI dWO dYA dYO dYU cSO cSU cTA cTE cTI cTO cTU cU cVA
    cVE cVI cVO cVU cWA cWE cWI cWO cYA cYO cYU cZA cZE cZI cZO cZU bMIDDLE DOT bVOICED
    ITERATION MARK aKATAKANA-HIRAGANA DOUBLE HYPHEN bPROLONGED SOUND MARK bSEMI-VOICED SOUND
    MARK bVOICED SOUND MARK aKAYAH LI DIGIT EIGHT dFIVE dFOUR dNINE dONE dSEVEN dSIX dTHREE dTWO
    dZERO cLETTER A dBA dCA dDA dGA dHA dHTA dI dKA dKHA dLA dMA dNA dNGA dNYA dOE dOO dPA dPHA
    dRA dSA dSHA dTA dTHA dVA dWA dYA dZA cSIGN CWI dSHYA cTONE CALYA ePLOPHU dPLOPHU cVOWEL E
    dEE dO dU dUE aKELVIN SIGN aKEY aKEYBOARD bAND MOUSE aKEYCAP TEN aKHAROSHTHI DIGIT FOUR cONE
    cTHREE cTWO bFRACTION ONE HALF bLETTER A cBA cBHA cCA cCHA cDA cDDA cDDHA cDHA cGA cGHA cHA
    cJA cKA cKHA cKKA cLA cMA cNA cNNA cNYA cPA cPHA cRA cSA cSHA cSSA cTA cTHA cTTA cTTHA cTTTA
    cTTTHA cVA cVHA cYA cZA bNUMBER ONE HUNDRED dTHOUSAND cTEN cTWENTY bPUNCTUATION CIRCLE
    cCRESCENT BAR cDANDA cDOT cDOUBLE DANDA cLINES cLOTUS cMANGALAM cSMALL CIRCLE bSIGN ANUSVARA
    cBAR ABOVE cCAUDA cDOT BELOW cDOUBLE RING BELOW cVISARGA bVIRAMA bVOWEL LENGTH MARK cSIGN E
    dI dO dU dVOCALIC R aKHITAN SMALL SCRIPT FILLER aKHMER CURRENCY SYMBOL RIEL bDIGIT EIGHT
    cFIVE cFOUR cNINE cONE cSEVEN cSIX cTHREE cTWO cZERO bINDEPENDENT VOWEL LY dLYY dQAA dQAI
    dQAQ dQAU dQE dQI dQII dQOO TYPE ONE fTWO dQU dQUK dQUU dQUUV dRY dRYY bLETTER BA cCA cCHA
    cCHO cCO cDA cDO cHA cKA cKHA cKHO cKO cLA cLO cMO cNGO cNNO cNO cNYO cPHA cPHO cPO cQA cRO
    cSA cSHA cSSO cTA cTHA cTHO cTO cTTHA cTTHO cVO cYO bSIGN AHSDA cATTHACAN cAVAKRAHASANYA
    cBANTOC cBARIYOOSAN cBATHAMASAT cBEYYAL cCAMNUC PII KUUH cCOENG cKAKABAT cKHAN cKOOMUUT cLEK
    TOO cMUUSIKATOAN cNIKAHIT cPHNAEK MUAN cREAHMUK cROBAT cSAMYOK SANNYA cTOANDAKHIAT cTRIISAP
    cVIRIAM cYUUKALEAPINTU bSYMBOL BEI KOET dROC cBUON KOET dROC cDAP KOET dROC cDAP-BEI KOET
    dROC cDAP-BUON KOET dROC cDAP-MUOY KOET dROC cDAP-PII KOET dROC cDAP-PRAM KOET dROC cLEK
    ATTAK BEI eBUON eMUOY ePII ePRAM ePRAM-BEI ePRAM-BUON ePRAM-MUOY ePRAM-PII eSON cMUOY KOET
    dROC cPATHAMASAT cPII KOET dROC cPRAM KOET dROC cPRAM-BEI KOET dROC cPRAM-BUON KOET dROC
    cPRAM-MUOY KOET dROC cPRAM-PII KOET dROC cTUTEYASAT bVOWEL INHERENT AA dAQ cSIGN AA dAE dAI
    dAU dE dI dIE dII dOE dOO dU dUA dUU dY dYA dYY aKHOJKI ABBREVIATION SIGN bDANDA bDOUBLE
    DANDA cSECTION MARK bLETTER A cAA cAI cAU cBA cBBA cBHA cCA cCHA cDA cDDA cDDDA cDDHA cDHA
    cE cGA cGGA cGHA cHA cI cJA cJJA cKA cKHA cLA cLLA cMA cNA cNGA cNNA cNYA cO cPA cPHA cRA
    cSA cTA cTHA cTTA cTTHA cU cVA cYA bSECTION MARK bSIGN ANUSVARA cNUKTA cSHADDA cSUKUN
    cVIRAMA bVOWEL SIGN AA dAI dAU dE dI dII dO dU bWORD SEPARATOR aKHUDAWADI DIGIT EIGHT cFIVE
    cFOUR cNINE cONE cSEVEN cSIX cTHREE cTWO cZERO bLETTER A cAA cAI cAU cBA cBBA cBHA cCA cCHA
    cDA cDDA cDDDA cDDHA cDHA cE cGA cGGA cGHA cHA cI cII cJA cJHA cJJA cKA cKHA cLA cMA cNA
    cNGA cNNA cNYA cO cPA cPHA cRA cRRA cSA cSHA cTA cTHA cTTA cTTHA cU cUU cVA cYA bSIGN
    ANUSVARA cNUKTA cVIRAMA bVOWEL SIGN AA dAI dAU dE dI dII dO dU dUU aKIMONO aKIP SIGN aKISS
    bMARK aKISSING CAT FACE WITH CLOSED EYES bFACE cWITH CLOSED EYES dSMILING EYES aKITE
    aKIWIFRUIT aKNEELING PERSON aKNOT aKOALA aKOREAN STANDARD SYMBOL aKRONOS aL B BAR SYMBOL
    aLAB COAT aLABEL aLACROSSE STICK AND BALL aLADDER aLADY BEETLE aLANGUAGE TAG aLAO
    CANCELLATION MARK bDIGIT EIGHT cFIVE cFOUR cNINE cONE cSEVEN cSIX cTHREE cTWO cZERO
    bELLIPSIS bHO MO cNO bKO LA bLETTER BO cCO cDO cFO FAY dFON dSUNG dTAM cHO SUNG dTAM cKHMU
    GO dNYO cKHO SUNG dTAM cKO cLO dLING dLOOT cMO cNGO cNO cNYO cO cPALI BHA dCHA dDDA dDDHA
    dDHA dGHA dJHA dLLA dNNA dNYA dTTA dTTHA cPHO SUNG dTAM cPO cRO cSANSKRIT SHA dSSA cSO SUNG
    dTAM cTHO SUNG dTAM cTO cWO cYO bNIGGAHITA bSEMIVOWEL SIGN LO dNYO bSIGN PALI VIRAMA bTONE
    MAI CATAWA dEK dTHO dTI bVOWEL SIGN A dAA dAI dAM dAY dE dEI dI dII dMAI KAN eKON dO dU dUU
    dY dYY aLARGE BLUE CIRCLE cDIAMOND cSQUARE bBROWN CIRCLE cSQUARE bCIRCLE bDOWN TACK bGREEN
    CIRCLE cSQUARE bLEFT TRIANGLE OPERATOR bONE DOT OVER TWO DOTS PUNCTUATION cRING OVER TWO
    RINGS PUNCTUATION bORANGE CIRCLE cDIAMOND cSQUARE bPURPLE CIRCLE cSQUARE bRED CIRCLE cSQUARE
    bTRIPLE VERTICAL BAR OPERATOR bTWO DOTS OVER ONE DOT PUNCTUATION cRINGS OVER ONE RING
    PUNCTUATION bUP TACK bYELLOW CIRCLE cSQUARE aLARGER THAN cOR EQUAL TO aLARI SIGN aLAST
    QUARTER MOON dSYMBOL dWITH FACE aLATIN CAPITAL LETTER A eWITH ACUTE fBREVE gAND ACUTE hDOT
    BELOW hGRAVE hHOOK ABOVE hTILDE fCARON fCIRCUMFLEX gAND ACUTE hDOT BELOW hGRAVE hHOOK ABOVE
    hTILDE fDIAERESIS gAND MACRON fDOT ABOVE hAND MACRON gBELOW fDOUBLE GRAVE fGRAVE fHOOK ABOVE
    fINVERTED BREVE fMACRON fOGONEK fRING ABOVE hAND ACUTE gBELOW fSTROKE fTILDE dAA dAE eWITH
    ACUTE fMACRON dAFRICAN D dALPHA dANGLICANA W dAO dAU dAV eWITH HORIZONTAL BAR dAY dB eWITH
    DOT ABOVE gBELOW fFLOURISH fHOOK fLINE BELOW fSTROKE fTOPBAR dBETA dBROKEN L dC eWITH ACUTE
    fBAR fCARON fCEDILLA gAND ACUTE fCIRCUMFLEX fDOT ABOVE fHOOK fPALATAL HOOK fSTROKE dCHI
    dCLOSED INSULAR G dCON dCUATRILLO eWITH COMMA dD eWITH CARON fCEDILLA fCIRCUMFLEX BELOW fDOT
    ABOVE gBELOW fHOOK fLINE BELOW fSHORT STROKE OVERLAY fSMALL LETTER Z iWITH CARON fSTROKE
    fTOPBAR dDZ eWITH CARON dE eWITH ACUTE fBREVE fCARON fCEDILLA gAND BREVE fCIRCUMFLEX gAND
    ACUTE hDOT BELOW hGRAVE hHOOK ABOVE hTILDE gBELOW fDIAERESIS fDOT ABOVE gBELOW fDOUBLE GRAVE
    fGRAVE fHOOK ABOVE fINVERTED BREVE fMACRON gAND ACUTE hGRAVE fOGONEK fSTROKE fTILDE gBELOW
    dEGYPTOLOGICAL AIN eALEF dENG dESH dET dETH dEZH eREVERSED eWITH CARON dF eWITH DOT ABOVE
    fHOOK fSTROKE dG eWITH ACUTE fBREVE fCARON fCEDILLA fCIRCUMFLEX fDOT ABOVE fHOOK fMACRON
    fOBLIQUE STROKE fSTROKE dGAMMA dGHA dGLOTTAL A eI eSTOP eU dH eWITH BREVE BELOW fCARON
    fCEDILLA fCIRCUMFLEX fDESCENDER fDIAERESIS fDOT ABOVE gBELOW fHOOK fSTROKE dHALF H dHENG
    dHWAIR dI eWITH ACUTE fBREVE fCARON fCIRCUMFLEX fDIAERESIS gAND ACUTE fDOT ABOVE gBELOW
    fDOUBLE GRAVE fGRAVE fHOOK ABOVE fINVERTED BREVE fMACRON fOGONEK fSTROKE fTILDE gBELOW
    dINSULAR D eF eG eR eS eT dIOTA dIS dJ eWITH CIRCUMFLEX fCROSSED-TAIL fSTROKE dK eWITH ACUTE
    fCARON fCEDILLA fDESCENDER fDIAGONAL STROKE fDOT BELOW fHOOK fLINE BELOW fOBLIQUE STROKE
    fSTROKE gAND DIAGONAL STROKE dL eWITH ACUTE fBAR fBELT fCARON fCEDILLA fCIRCUMFLEX BELOW
    fDOT BELOW hAND MACRON fDOUBLE BAR fHIGH STROKE fLINE BELOW fMIDDLE DOT gTILDE fSMALL LETTER
    J fSTROKE dLJ dM eWITH ACUTE fDOT ABOVE gBELOW fHOOK dMIDDLE SCOTS S dMIDDLE-WELSH LL eV dN
    eWITH ACUTE fCARON fCEDILLA fCIRCUMFLEX BELOW fDESCENDER fDOT ABOVE gBELOW fGRAVE fLEFT HOOK
    fLINE BELOW fLONG RIGHT LEG fOBLIQUE STROKE fSMALL LETTER J fTILDE dNJ dO eWITH ACUTE fBREVE
    fCARON fCIRCUMFLEX gAND ACUTE hDOT BELOW hGRAVE hHOOK ABOVE hTILDE fDIAERESIS gAND MACRON
    fDOT ABOVE hAND MACRON gBELOW fDOUBLE ACUTE gGRAVE fGRAVE fHOOK ABOVE fHORN gAND ACUTE hDOT
    BELOW hGRAVE hHOOK ABOVE hTILDE fINVERTED BREVE fLONG STROKE OVERLAY fLOOP fMACRON gAND
    ACUTE hGRAVE fMIDDLE TILDE fOGONEK gAND MACRON fSTROKE gAND ACUTE fTILDE gAND ACUTE
    hDIAERESIS hMACRON dOI dOLD POLISH O dOMEGA dOO dOPEN E eO dOU dP eWITH ACUTE fDOT ABOVE
    fFLOURISH fHOOK fSQUIRREL TAIL fSTROKE gTHROUGH DESCENDER dQ eWITH DIAGONAL STROKE fSTROKE
    THROUGH DESCENDER dR eROTUNDA eWITH ACUTE fCARON fCEDILLA fDOT ABOVE gBELOW hAND MACRON
    fDOUBLE GRAVE fINVERTED BREVE fLINE BELOW fOBLIQUE STROKE fSTROKE fTAIL dREVERSED C WITH DOT
    eE eHALF H eOPEN E dRUM ROTUNDA dS eWITH ACUTE gAND DOT ABOVE fCARON gAND DOT ABOVE fCEDILLA
    fCIRCUMFLEX fCOMMA BELOW fDOT ABOVE gBELOW hAND DOT ABOVE fHOOK fOBLIQUE STROKE fSHORT
    STROKE OVERLAY fSWASH TAIL dSALTILLO dSCHWA dSCRIPT G dSHARP S dSIGMOID S dSMALL CAPITAL I
    eQ WITH HOOK TAIL dT eWITH CARON fCEDILLA fCIRCUMFLEX BELOW fCOMMA BELOW fDIAGONAL STROKE
    fDOT ABOVE gBELOW fHOOK fLINE BELOW fRETROFLEX HOOK fSTROKE dTHORN eWITH STROKE gTHROUGH
    DESCENDER dTONE FIVE eSIX eTWO dTRESILLO dTURNED A eALPHA eH eINSULAR G eK eL eM eT eV dTZ
    dU eBAR eWITH ACUTE fBREVE fCARON fCIRCUMFLEX gBELOW fDIAERESIS gAND ACUTE hCARON hGRAVE
    hMACRON gBELOW fDOT BELOW fDOUBLE ACUTE gGRAVE fGRAVE fHOOK ABOVE fHORN gAND ACUTE hDOT
    BELOW hGRAVE hHOOK ABOVE hTILDE fINVERTED BREVE fMACRON gAND DIAERESIS fOGONEK fRING ABOVE
    fSTROKE fTILDE gAND ACUTE gBELOW dUPSILON dV eWITH DIAGONAL STROKE fDOT BELOW fHOOK fTILDE
    dVEND dVISIGOTHIC Z dVOLAPUK AE eOE eUE dVY dW eWITH ACUTE fCIRCUMFLEX fDIAERESIS fDOT ABOVE
    gBELOW fGRAVE fHOOK dWYNN dX eWITH DIAERESIS fDOT ABOVE dY eWITH ACUTE fCIRCUMFLEX
    fDIAERESIS fDOT ABOVE gBELOW fGRAVE fHOOK gABOVE fLOOP fMACRON fSTROKE fTILDE dYOGH dZ eWITH
    ACUTE fCARON fCIRCUMFLEX fDESCENDER fDOT ABOVE gBELOW fHOOK fLINE BELOW fPALATAL HOOK
    fSTROKE fSWASH TAIL cLIGATURE IJ dOE bCROSS bEPIGRAPHIC LETTER ARCHAIC M dI LONGA dINVERTED
    M dREVERSED F eP dSIDEWAYS I bLETTER AIN cALVEOLAR CLICK cBIDENTAL PERCUSSIVE cBILABIAL
    CLICK dPERCUSSIVE cDENTAL CLICK cGLOTTAL STOP eWITH STROKE cINVERTED GLOTTAL STOP fWITH CURL
    gSTROKE cLATERAL CLICK cPHARYNGEAL VOICED FRICATIVE cRETROFLEX CLICK eWITH RETROFLEX HOOK
    cREVERSED ESH LOOP dGLOTTAL STOP WITH STROKE cSINOLOGICAL DOT cSMALL CAPITAL A eAE eB
    eBARRED B eC eD eE eETH eEZH eF eG fWITH HOOK eH eI eINVERTED R eJ eK eL fWITH BELT gSTROKE
    eM eN eO eOE eOPEN O eOU eP eQ eR fWITH RIGHT LEG eREVERSED N fR eRUM eS eT eTURNED E fG fK
    fM fR eU eV eW eY eZ cSTRETCHED C eWITH CURL cTWO WITH STROKE cVOICED LARYNGEAL SPIRANT
    cWYNN cYR bSMALL CAPITAL LETTER I WITH STROKE eU WITH STROKE cLETTER A eREVERSED-SCHWA eWITH
    ACUTE fBREVE gAND ACUTE hDOT BELOW hGRAVE hHOOK ABOVE hTILDE fCARON fCIRCUMFLEX gAND ACUTE
    hDOT BELOW hGRAVE hHOOK ABOVE hTILDE fDIAERESIS gAND MACRON fDOT ABOVE hAND MACRON gBELOW
    fDOUBLE GRAVE fGRAVE fHOOK ABOVE fINVERTED BREVE fMACRON fOGONEK fRETROFLEX HOOK fRIGHT HALF
    RING fRING ABOVE hAND ACUTE gBELOW fSTROKE fTILDE dAA dAE eWITH ACUTE fMACRON dALPHA eWITH
    RETROFLEX HOOK dANGLICANA W dAO dAU dAV eWITH HORIZONTAL BAR dAY dB eWITH DOT ABOVE gBELOW
    fFLOURISH fHOOK fLINE BELOW fMIDDLE TILDE fPALATAL HOOK fSTROKE fTOPBAR dBARRED ALPHA eE eO
    dBASELINE ESH dBETA dBLACKLETTER E eO fWITH STROKE dBOTTOM HALF O dBROKEN L dC eWITH ACUTE
    fBAR fCARON fCEDILLA gAND ACUTE fCIRCUMFLEX fCURL fDOT ABOVE fHOOK fPALATAL HOOK fRETROFLEX
    HOOK fSTROKE dCHI eWITH LOW LEFT SERIF gRIGHT RING dCLOSED INSULAR G eOMEGA eOPEN E
    eREVERSED OPEN E dCON dCUATRILLO eWITH COMMA dD eWITH CARON fCEDILLA fCIRCUMFLEX BELOW fCURL
    fDOT ABOVE gBELOW fHOOK gAND TAIL fLINE BELOW fMIDDLE TILDE fPALATAL HOOK fSHORT STROKE
    OVERLAY fSTROKE fTAIL fTOPBAR dDB DIGRAPH dDELTA dDEZH DIGRAPH fWITH PALATAL HOOK gRETROFLEX
    HOOK dDOTLESS I eJ fWITH STROKE hAND HOOK dDOUBLE R fWITH CROSSED-TAIL eTHORN eWYNN dDUM dDZ
    eDIGRAPH fWITH CURL gRETROFLEX HOOK eWITH CARON dE eWITH ACUTE fBREVE fCARON fCEDILLA gAND
    BREVE fCIRCUMFLEX gAND ACUTE hDOT BELOW hGRAVE hHOOK ABOVE hTILDE gBELOW fDIAERESIS fDOT
    ABOVE gBELOW fDOUBLE GRAVE fFLOURISH fGRAVE fHOOK ABOVE fINVERTED BREVE fMACRON gAND ACUTE
    hGRAVE fNOTCH fOGONEK fRETROFLEX HOOK fSTROKE fTILDE gBELOW dEGYPTOLOGICAL AIN eALEF dENG
    eWITH CROSSED-TAIL fPALATAL HOOK dESH eWITH CURL fDOUBLE BAR hAND CURL fPALATAL HOOK
    fRETROFLEX HOOK dET dETH dEZH eREVERSED eWITH CARON fCURL fPALATAL HOOK fRETROFLEX HOOK
    fTAIL dF eWITH DOT ABOVE fHOOK fMIDDLE TILDE fPALATAL HOOK fSTROKE dFENG DIGRAPH fWITH TRILL
    dG eWITH ACUTE fBREVE fCARON fCEDILLA fCIRCUMFLEX fDOT ABOVE fHOOK fMACRON fOBLIQUE STROKE
    fPALATAL HOOK fSTROKE dGAMMA dGHA dGLOTTAL A eI eSTOP eU dH eWITH BREVE BELOW fCARON
    fCEDILLA fCIRCUMFLEX fDESCENDER fDIAERESIS fDOT ABOVE gBELOW fHOOK fLINE BELOW fPALATAL HOOK
    fSTROKE dHALF H dHENG eWITH HOOK dHV dI eWITH ACUTE fBREVE fCARON fCIRCUMFLEX fDIAERESIS
    gAND ACUTE fDOT BELOW fDOUBLE GRAVE fGRAVE fHOOK ABOVE fINVERTED BREVE fMACRON fOGONEK
    fRETROFLEX HOOK fSTROKE gAND RETROFLEX HOOK fTILDE gBELOW dINSULAR D eF eG eR eS eT
    dINVERTED ALPHA eOE dIOTA eWITH STROKE dIOTIFIED E dIS dJ eWITH CARON fCIRCUMFLEX
    fCROSSED-TAIL fSTROKE dK eWITH ACUTE fCARON fCEDILLA fDESCENDER fDIAGONAL STROKE fDOT BELOW
    fHOOK fLINE BELOW fOBLIQUE STROKE fPALATAL HOOK fSTROKE gAND DIAGONAL STROKE dKRA dL eWITH
    ACUTE fBAR fBELT gAND PALATAL HOOK fCARON fCEDILLA fCIRCUMFLEX BELOW fCURL fDOT BELOW hAND
    MACRON fDOUBLE BAR gMIDDLE TILDE fFISHHOOK fHIGH STROKE fINVERTED LAZY S fLINE BELOW fMIDDLE
    DOT gRING gTILDE fPALATAL HOOK fRETROFLEX HOOK hAND BELT fSTROKE dLAMBDA WITH STROKE dLENIS
    F dLEZH eWITH RETROFLEX HOOK dLJ dLONG S fWITH DIAGONAL STROKE gDOT ABOVE gHIGH STROKE dLS
    DIGRAPH dLUM dLZ DIGRAPH dM eWITH ACUTE fCROSSED-TAIL fDOT ABOVE gBELOW fHOOK fMIDDLE TILDE
    fPALATAL HOOK dMIDDLE SCOTS S dMIDDLE-WELSH LL eV dMUM dN ePRECEDED BY APOSTROPHE eWITH
    ACUTE fCARON fCEDILLA fCIRCUMFLEX BELOW fCROSSED-TAIL fCURL fDESCENDER fDOT ABOVE gBELOW
    fGRAVE fLEFT HOOK fLINE BELOW fLONG RIGHT LEG fMIDDLE TILDE fOBLIQUE STROKE fPALATAL HOOK
    fRETROFLEX HOOK fTILDE dNJ dNUM dO eWITH ACUTE fBREVE fCARON fCIRCUMFLEX gAND ACUTE hDOT
    BELOW hGRAVE hHOOK ABOVE hTILDE fDIAERESIS gAND MACRON fDOT ABOVE hAND MACRON gBELOW fDOUBLE
    ACUTE gGRAVE fGRAVE fHOOK ABOVE fHORN gAND ACUTE hDOT BELOW hGRAVE hHOOK ABOVE hTILDE
    fINVERTED BREVE fLONG STROKE OVERLAY fLOOP fLOW RING INSIDE fMACRON gAND ACUTE hGRAVE
    fOGONEK gAND MACRON fRETROFLEX HOOK fSTROKE gAND ACUTE fTILDE gAND ACUTE hDIAERESIS hMACRON
    dOI dOLD POLISH O dOMEGA dOO dOPEN E fWITH RETROFLEX HOOK eO fWITH RETROFLEX HOOK gSTROKE
    eOE dOU dP eWITH ACUTE fDOT ABOVE fFLOURISH fHOOK fMIDDLE TILDE fPALATAL HOOK fSQUIRREL TAIL
    fSTROKE gTHROUGH DESCENDER dPHI dQ eWITH DIAGONAL STROKE fHOOK gTAIL fSTROKE THROUGH
    DESCENDER dQP DIGRAPH dR eROTUNDA eWITH ACUTE fCARON fCEDILLA fCROSSED-TAIL fDOT ABOVE
    gBELOW hAND MACRON fDOUBLE GRAVE fFISHHOOK gAND MIDDLE TILDE hPALATAL HOOK fINVERTED BREVE
    fLINE BELOW fLONG LEG fMIDDLE TILDE fOBLIQUE STROKE fPALATAL HOOK fSTROKE fTAIL eWITHOUT
    HANDLE dRAMS HORN dREVERSED C fWITH DOT eE eENG eHALF H eK eOPEN E gWITH HOOK hRETROFLEX
    HOOK eR WITH FISHHOOK eSCRIPT G dRUM eROTUNDA dS eWITH ACUTE gAND DOT ABOVE fCARON gAND DOT
    ABOVE fCEDILLA fCIRCUMFLEX fCOMMA BELOW fCURL fDOT ABOVE gBELOW hAND DOT ABOVE fHOOK fMIDDLE
    TILDE fOBLIQUE STROKE fPALATAL HOOK fSHORT STROKE OVERLAY fSWASH TAIL dSAKHA YAT dSALTILLO
    dSCHWA eWITH HOOK fRETROFLEX HOOK dSCRIPT G fWITH CROSSED-TAIL eR fWITH RING dSHARP S
    dSIDEWAYS DIAERESIZED U eO fWITH STROKE eOPEN O eTURNED M eU dSIGMOID S dSQUAT REVERSED ESH
    dSTIRRUP R dT eWITH CARON fCEDILLA fCIRCUMFLEX BELOW fCOMMA BELOW fCURL fDIAERESIS fDIAGONAL
    STROKE fDOT ABOVE gBELOW fHOOK gAND RETROFLEX HOOK fLINE BELOW fMIDDLE TILDE fPALATAL HOOK
    fRETROFLEX HOOK fSTROKE dTAILLESS PHI dTC DIGRAPH WITH CURL dTESH DIGRAPH fWITH PALATAL HOOK
    gRETROFLEX HOOK dTH WITH STRIKETHROUGH dTHORN eWITH STROKE gTHROUGH DESCENDER dTONE FIVE
    eSIX eTWO dTOP HALF O dTRESILLO dTS DIGRAPH fWITH RETROFLEX HOOK dTUM dTURNED A eAE eALPHA
    eDELTA eE eG eH fWITH FISHHOOK hAND TAIL eI eINSULAR G eK eL eM fWITH LONG LEG eO OPEN-O
    gWITH STROKE eOE fWITH HORIZONTAL STROKE gSTROKE eOPEN E eR fWITH HOOK gLONG LEG iAND
    RETROFLEX HOOK gMIDDLE TILDE gPALATAL HOOK gTAIL eT fWITH CURL eUI eV eW eY fWITH BELT dTZ
    dU eBAR fWITH SHORT RIGHT LEG eWITH ACUTE fBREVE fCARON fCIRCUMFLEX gBELOW fDIAERESIS gAND
    ACUTE hCARON hGRAVE hMACRON gBELOW fDOT BELOW fDOUBLE ACUTE gGRAVE fGRAVE fHOOK ABOVE fHORN
    gAND ACUTE hDOT BELOW hGRAVE hHOOK ABOVE hTILDE fINVERTED BREVE fLEFT HOOK fMACRON gAND
    DIAERESIS fOGONEK fRETROFLEX HOOK fRING ABOVE fSHORT RIGHT LEG fSTROKE fTILDE gAND ACUTE
    gBELOW dUE dUI dUM dUO dUPSILON eWITH STROKE dV eWITH CURL fDIAGONAL STROKE fDOT BELOW fHOOK
    fPALATAL HOOK fRIGHT HOOK fTILDE dVEND dVISIGOTHIC Z dVOLAPUK AE eOE eUE dVY dW eWITH ACUTE
    fCIRCUMFLEX fDIAERESIS fDOT ABOVE gBELOW fGRAVE fHOOK fRING ABOVE dX eWITH DIAERESIS fDOT
    ABOVE fLONG LEFT LEG iAND LOW RIGHT RING iWITH SERIF fLOW RIGHT RING fPALATAL HOOK dY eWITH
    ACUTE fCIRCUMFLEX fDIAERESIS fDOT ABOVE gBELOW fGRAVE fHOOK gABOVE fLOOP fMACRON fRING ABOVE
    fSHORT RIGHT LEG fSTROKE fTILDE dYOGH dZ eWITH ACUTE fCARON fCIRCUMFLEX fCURL fDESCENDER
    fDOT ABOVE gBELOW fHOOK fLINE BELOW fMIDDLE TILDE fPALATAL HOOK fRETROFLEX HOOK fSTROKE
    fSWASH TAIL cLIGATURE FF dFFI dFFL dFI dFL dIJ dLONG S T dOE dST bSUBSCRIPT SMALL LETTER A
    eE eH eI eJ eK eL eM eN eO eP eR eS eSCHWA eT eU eV eX aLEAF FLUTTERING IN WIND aLEAFY GREEN
    aLEDGER aLEFT AND LOWER AND RIGHT TRIANGULAR THREE QUARTERS BLOCK dONE EIGHTH BLOCK cRIGHT
    DOUBLE TURNSTILE dTACK dTRIANGULAR HALF BLOCK cUPPER AND RIGHT TRIANGULAR THREE QUARTERS
    BLOCK dONE EIGHTH BLOCK bANGER BUBBLE bANGLE BRACKET dWITH DOT bARC LESS-THAN BRACKET bARROW
    WITH CIRCLED PLUS dSMALL CIRCLE bBARB DOWN RIGHT BARB DOWN HARPOON fUP HARPOON cUP RIGHT
    BARB DOWN HARPOON fUP HARPOON bBLACK LENTICULAR BRACKET cTORTOISE SHELL BRACKET bCEILING
    bCLOSED ENTRY bCORNER BRACKET bCURLY BRACKET dLOWER HOOK dMIDDLE PIECE dUPPER HOOK bDOTTED
    SUBSTITUTION BRACKET bDOUBLE ANGLE BRACKET cPARENTHESIS cQUOTATION MARK cWIGGLY FENCE bFISH
    TAIL bFIVE EIGHTHS BLOCK bFLOOR bHALF BLACK CIRCLE dSTAR cBLOCK cCIRCLE dWITH DOT eFOUR DOTS
    eTHREE DOTS eTWO DOTS cFOLDER cINVERSE MEDIUM SHADE AND RIGHT HALF BLOCK cMEDIUM SHADE
    cRUNNING MAN bHAND TELEPHONE RECEIVER bLOW PARAPHRASE BRACKET bLUGGAGE bMULTIMAP bNORMAL
    FACTOR SEMIDIRECT PRODUCT bONE EIGHTH BLOCK cQUARTER BLOCK bOUTER JOIN bPARENTHESIS
    cEXTENSION cLOWER HOOK cUPPER HOOK bRAISED OMISSION BRACKET bRIGHT ARROW dTHROUGH SMALL
    CIRCLE dWITH DOUBLE VERTICAL STROKE eSTROKE eVERTICAL STROKE cBLACK ARROW cDOUBLE ARROW
    eWITH STROKE fVERTICAL STROKE cOPEN-HEADED ARROW cSANS-SERIF ARROW cTRIANGLE-HEADED ARROW
    cWAVE ARROW cWHITE ARROW bS-SHAPED BAG DELIMITER bSEMIDIRECT PRODUCT bSEVEN EIGHTHS BLOCK
    bSIDEWAYS U BRACKET bSINGLE QUOTATION MARK bSPEECH BUBBLE bSQUARE BRACKET dEXTENSION dLOWER
    CORNER dUPPER CORNER dWITH DOUBLE STROKE eQUILL eSTROKE eTICK IN BOTTOM CORNER gTOP CORNER
    eUNDERBAR bSUBSTITUTION BRACKET bTACK bTHIRD WHITE RIGHT POINTING INDEX bTHOUGHT BUBBLE
    bTHREE EIGHTHS BLOCK cQUARTERS BLOCK bTORTOISE SHELL BRACKET bTRANSPOSITION BRACKET
    bTRIANGLE BESIDE VERTICAL BAR bTRIANGULAR ONE QUARTER BLOCK bVERTICAL BAR WITH QUILL cBOX
    LINE bWHITE CORNER BRACKET cCURLY BRACKET cLENTICULAR BRACKET cPARENTHESIS cSQUARE BRACKET
    cTORTOISE SHELL BRACKET bWIGGLY FENCE bWRITING HAND aLEFT-FACING ARMENIAN ETERNITY SIGN
    bFIST bSVASTI SIGN dWITH DOTS aLEFT-HANDED INTERLACED PENTAGRAM aLEFT-POINTING ANGLE BRACKET
    bCURVED ANGLE BRACKET bDOUBLE ANGLE QUOTATION MARK bMAGNIFYING GLASS aLEFT-SHADED WHITE
    RIGHTWARDS ARROW aLEFT-SIDE ARC ANTICLOCKWISE ARROW aLEFT-TO-RIGHT EMBEDDING bISOLATE bMARK
    bOVERRIDE aLEFTWARDS ARROW cABOVE ALMOST EQUAL TO dREVERSE ALMOST EQUAL TO eTILDE OPERATOR
    dSHORT RIGHTWARDS ARROW dTILDE OPERATOR cAND UPPER AND LOWER ONE EIGHTH BLOCK cFROM BAR eTO
    BLACK DIAMOND cOVER RIGHTWARDS ARROW cTHROUGH LESS-THAN dSUBSET dX cTO BAR eOVER RIGHTWARDS
    ARROW TO BAR dBLACK DIAMOND cWITH DOTTED STEM dDOUBLE VERTICAL STROKE dEQUILATERAL ARROWHEAD
    dHOOK dLARGE TRIANGLE ARROWHEAD dLOOP dMEDIUM TRIANGLE ARROWHEAD dNOTCHED TAIL dPLUS BELOW
    dSMALL EQUILATERAL ARROWHEAD eTRIANGLE ARROWHEAD dSTROKE dTAIL eWITH DOUBLE VERTICAL STROKE
    fVERTICAL STROKE dTIP DOWNWARDS eUPWARDS dVERTICAL STROKE bARROW-TAIL bBACK-TILTED SHADOWED
    WHITE ARROW bBLACK ARROW cCIRCLED WHITE ARROW bBOTTOM-SHADED WHITE ARROW bCOMPRESSED ARROW
    bDASHED ARROW bDOUBLE ARROW dFROM BAR dWITH STROKE eVERTICAL STROKE cARROW-TAIL cDASH ARROW
    bFINGER-POST ARROW bFRONT-TILTED SHADOWED WHITE ARROW bHAND bHARPOON OVER RIGHTWARDS HARPOON
    cWITH BARB DOWN ABOVE RIGHTWARDS HARPOON WITH BARB DOWN fBELOW LONG DASH fFROM BAR fTO BAR
    eDOWNWARDS eUP ABOVE LEFTWARDS HARPOON WITH BARB DOWN gLONG DASH gRIGHTWARDS HARPOON WITH
    BARB UP fFROM BAR fTO BAR eUPWARDS bHEAVY ARROW cCOMPRESSED ARROW bLEFT-SHADED WHITE ARROW
    bOPEN-HEADED ARROW bPAIRED ARROWS bQUADRUPLE ARROW bRIGHT-SHADED WHITE ARROW bROCKET
    bSANS-SERIF ARROW bSQUARED ARROW bSQUIGGLE ARROW bTOP SHADED WHITE ARROW bTRIANGLE ARROWHEAD
    bTRIANGLE-HEADED ARROW dOVER RIGHTWARDS TRIANGLE-HEADED ARROW dTO BAR dWITH BOLD SHAFT
    eDOUBLE HORIZONTAL STROKE fVERTICAL STROKE eHEAVY SHAFT eLONG TIP DOWNWARDS gUPWARDS eMEDIUM
    SHAFT eNARROW SHAFT eVERY HEAVY SHAFT cDASHED ARROW cPAIRED ARROWS bTRIPLE ARROW cDASH ARROW
    bTWO HEADED ARROW bTWO-HEADED ARROW FROM BAR dWITH DOUBLE VERTICAL STROKE eTAIL fWITH DOUBLE
    VERTICAL STROKE gVERTICAL STROKE eTRIANGLE ARROWHEADS eVERTICAL STROKE cTRIPLE DASH ARROW
    bWAVE ARROW bWHITE ARROW dWITHIN TRIANGLE ARROWHEAD aLEG aLEMON aLEO aLEOPARD aLEPCHA
    CONSONANT SIGN K dKANG dL dM dN dNYIN-DO dP dR dT bDIGIT EIGHT cFIVE cFOUR cNINE cONE cSEVEN
    cSIX cTHREE cTWO cZERO bLETTER A cBA cBLA cCA cCHA cDA cDDA cDZA cFA cFLA cGA cGLA cHA cHLA
    cJA cKA cKHA cKLA cLA cMA cMLA cNA cNGA cNYA cPA cPHA cPLA cRA cSA cSHA cTA cTHA cTSA cTSHA
    cTTA cTTHA cVA cWA cYA bPUNCTUATION CER-WA cNYET THYOOM TA-ROL cTA-ROL cTSHOOK dCER-WA bSIGN
    NUKTA cRAN bSUBJOINED LETTER RA dYA bVOWEL SIGN AA dE dI dO dOO dU dUU aLESS-THAN ABOVE
    DOUBLE-LINE EQUAL ABOVE GREATER-THAN cGREATER-THAN ABOVE DOUBLE-LINE EQUAL cLEFTWARDS ARROW
    cSIMILAR ABOVE GREATER-THAN dOR EQUAL cSLANTED EQUAL ABOVE GREATER-THAN ABOVE SLANTED EQUAL
    bAND NOT APPROXIMATE cSINGLE-LINE NOT EQUAL TO bBUT NOT EQUAL TO dEQUIVALENT TO bCLOSED BY
    CURVE eABOVE SLANTED EQUAL bEQUAL TO OR GREATER-THAN bOR APPROXIMATE cEQUAL TO cEQUIVALENT
    TO cGREATER-THAN cSLANTED EQUAL TO fWITH DOT ABOVE iRIGHT hINSIDE bOVER EQUAL TO bSIGN bWITH
    CIRCLE INSIDE cDOT cQUESTION MARK ABOVE aLEVEL SLIDER aLF aLIBRA aLIGATURE OPEN ET ORNAMENT
    aLIGHT CHECK MARK bEIGHT SPOKED ASTERISK bFIVE POINTED BLACK STAR cSPOKED ASTERISK bFOUR
    POINTED BLACK CUSP eSTAR bGREEK CROSS bLEFT TORTOISE SHELL BRACKET ORNAMENT bRAIL bRIGHT
    TORTOISE SHELL BRACKET ORNAMENT bSALTIRE bSHADE bSIX SPOKED ASTERISK bTHREE POINTED BLACK
    STAR bTWELVE POINTED BLACK STAR bVERTICAL BAR bWHITE SQUARE aLIGHTNING bMOOD cBUBBLE aLIMBU
    DIGIT EIGHT cFIVE cFOUR cNINE cONE cSEVEN cSIX cTHREE cTWO cZERO bEXCLAMATION MARK bLETTER
    BA cBHA cCA cCHA cDA cDHA cGA cGHA cGYAN cHA cJA cJHA cKA cKHA cLA cMA cNA cNGA cPA cPHA cRA
    cSA cSHA cSSA cTA cTHA cTRA cWA cYA cYAN bQUESTION MARK bSIGN KEMPHRENG cLOO cMUKPHRENG
    cSA-I bSMALL LETTER ANUSVARA dKA dLA dMA dNA dNGA dPA dRA dTA bSUBJOINED LETTER RA dWA dYA
    bVOWEL SIGN A dAI dAU dE dEE dI dO dOO dU bVOWEL-CARRIER LETTER aLIMITED LIABILITY SIGN
    aLINE FEED bINTEGRATION NOT INCLUDING THE POLE cWITH RECTANGULAR PATH AROUND POLE
    dSEMICIRCULAR PATH AROUND POLE bSEPARATOR bTABULATION cSET aLINEAR A SIGN A028B dA100-102
    dA120B dA131C dA301 dA302 dA303 dA304 dA305 dA306 dA307 dA308 dA309A dA309B dA309C dA310
    dA311 dA312 dA313A dA313B dA313C dA314 dA315 dA316 dA317 dA318 dA319 dA320 dA321 dA322 dA323
    dA324 dA325 dA326 dA327 dA328 dA329 dA330 dA331 dA332 dA333 dA334 dA335 dA336 dA337 dA338
    dA339 dA340 dA341 dA342 dA343 dA344 dA345 dA346 dA347 dA348 dA349 dA350 dA351 dA352 dA353
    dA354 dA355 dA356 dA357 dA358 dA359 dA360 dA361 dA362 dA363 dA364 dA365 dA366 dA367 dA368
    dA369 dA370 dA371 dA400-VAS dA401-VAS dA402-VAS dA403-VAS dA404-VAS dA405-VAS dA406-VAS
    dA407-VAS dA408-VAS dA409-VAS dA410-VAS dA411-VAS dA412-VAS dA413-VAS dA414-VAS dA415-VAS
    dA416-VAS dA417-VAS dA418-VAS dA501 dA502 dA503 dA504 dA505 dA506 dA508 dA509 dA510 dA511
    dA512 dA513 dA515 dA516 dA520 dA521 dA523 dA524 dA525 dA526 dA527 dA528 dA529 dA530 dA531
    dA532 dA534 dA535 dA536 dA537 dA538 dA539 dA540 dA541 dA542 dA545 dA547 dA548 dA549 dA550
    dA551 dA552 dA553 dA554 dA555 dA556 dA557 dA559 dA563 dA564 dA565 dA566 dA568 dA569 dA570
    dA571 dA572 dA573 dA574 dA575 dA576 dA577 dA578 dA579 dA580 dA581 dA582 dA583 dA584 dA585
    dA586 dA587 dA588 dA589 dA591 dA592 dA594 dA595 dA596 dA598 dA600 dA601 dA602 dA603 dA604
    dA606 dA608 dA609 dA610 dA611 dA612 dA613 dA614 dA615 dA616 dA617 dA618 dA619 dA620 dA621
    dA622 dA623 dA624 dA626 dA627 dA628 dA629 dA634 dA637 dA638 dA640 dA642 dA643 dA644 dA645
    dA646 dA648 dA649 dA651 dA652 dA653 dA654 dA655 dA656 dA657 dA658 dA659 dA660 dA661 dA662
    dA663 dA664 dA701 A dA702 B dA703 D dA704 E dA705 F dA706 H dA707 J dA708 K dA709 L dA709-2
    L2 dA709-3 L3 dA709-4 L4 dA709-6 L6 dA710 W dA711 X dA712 Y dA713 OMEGA dA714 ABB dA715 BB
    dA717 DD dA726 EYYY dA732 JE dA800 dA801 dA802 dA803 dA804 dA805 dA806 dA807 dAB001 dAB002
    dAB003 dAB004 dAB005 dAB006 dAB007 dAB008 dAB009 dAB010 dAB011 dAB013 dAB016 dAB017 dAB020
    dAB021 dAB021F dAB021M dAB022 dAB022F dAB022M dAB023 dAB023M dAB024 dAB026 dAB027 dAB028
    dAB029 dAB030 dAB031 dAB034 dAB037 dAB038 dAB039 dAB040 dAB041 dAB044 dAB045 dAB046 dAB047
    dAB048 dAB049 dAB050 dAB051 dAB053 dAB054 dAB055 dAB056 dAB057 dAB058 dAB059 dAB060 dAB061
    dAB065 dAB066 dAB067 dAB069 dAB070 dAB073 dAB074 dAB076 dAB077 dAB078 dAB079 dAB080 dAB081
    dAB082 dAB085 dAB086 dAB087 dAB118 dAB120 dAB122 dAB123 dAB131A dAB131B dAB164 dAB171 dAB180
    dAB188 dAB191 bB IDEOGRAM B100 MAN dB102 WOMAN dB104 DEER dB105 EQUID dB105F MARE dB105M
    STALLION dB106F EWE dB106M RAM dB107F SHE-GOAT dB107M HE-GOAT dB108F SOW dB108M BOAR dB109F
    COW dB109M BULL dB120 WHEAT dB121 BARLEY dB122 OLIVE dB123 SPICE dB125 CYPERUS dB130 OIL
    dB131 WINE dB132 dB140 BRONZE dB141 GOLD dB142 dB145 WOOL dB146 dB150 dB151 HORN dB152 dB153
    dB154 dB157 dB158 dB159 CLOTH dB160 dB161 dB162 GARMENT dB163 ARMOUR dB164 dB165 dB166 dB167
    dB168 dB169 dB170 dB171 dB172 dB173 MONTH dB174 dB176 TREE dB177 dB178 dB179 dB180 dB181
    dB182 dB183 dB184 dB185 dB189 dB190 dB191 HELMET dB220 FOOTSTOOL dB225 BATHTUB dB230 SPEAR
    dB231 ARROW dB232 dB233 SWORD dB234 dB236 dB240 WHEELED CHARIOT dB241 CHARIOT dB242 CHARIOT
    FRAME dB243 WHEEL dB245 dB246 dB248 dB249 dB251 dB252 dB253 dB254 DART dB255 dB256 dB257
    dB258 dB259 dVESSEL B155 eB200 eB201 eB202 eB203 eB204 eB205 eB206 eB207 eB208 eB209 eB210
    eB211 eB212 eB213 eB214 eB215 eB216 eB217 eB218 eB219 eB221 eB222 eB226 eB227 eB228 eB229
    eB250 eB305 cMONOGRAM B127 KAPO dB128 KANAKO dB133 AREPA dB135 MERI dB156 TURO2 dB247 DIPTE
    cSYLLABLE B001 DA dB002 RO dB003 PA dB004 TE dB005 TO dB006 NA dB007 DI dB008 A dB009 SE
    dB010 U dB011 PO dB012 SO dB013 ME dB014 DO dB015 MO dB016 QA dB017 ZA dB020 ZO dB021 QI
    dB023 MU dB024 NE dB025 A2 dB026 RU dB027 RE dB028 I dB029 PU2 dB030 NI dB031 SA dB032 QO
    dB033 RA3 dB036 JO dB037 TI dB038 E dB039 PI dB040 WI dB041 SI dB042 WO dB043 A3 dB044 KE
    dB045 DE dB046 JE dB048 NWA dB050 PU dB051 DU dB052 NO dB053 RI dB054 WA dB055 NU dB057 JA
    dB058 SU dB059 TA dB060 RA dB061 O dB062 PTE dB065 JU dB066 TA2 dB067 KI dB068 RO2 dB069 TU
    dB070 KO dB071 DWE dB072 PE dB073 MI dB074 ZE dB075 WE dB076 RA2 dB077 KA dB078 QE dB080 MA
    dB081 KU dB085 AU dB087 TWE dB090 DWO dB091 TWO cSYMBOL B018 dB019 dB022 dB034 dB047 dB049
    dB056 dB063 dB064 dB079 dB082 dB083 dB086 dB089 aLINK SYMBOL aLINKED PAPERCLIPS aLION FACE
    aLIPS aLIPSTICK aLIRA SIGN aLISU LETTER A cAE cBA cCA cCHA cDA cDZA cE cEU cFA cGA cGHA cHA
    cHHA cI cJA cKA cKHA cLA cMA cNA cNGA cO cOE cPA cPHA cSA cSHA cTA cTHA cTONE MYA BO eCYA
    eJEU eNA eTI dNA PO cTSA cTSHA cU cUE cUH cWA cXA cYA cYHA cZA cZHA bPUNCTUATION COMMA cFULL
    STOP aLIVRE TOURNOIS SIGN aLIZARD aLLAMA aLOBSTER aLOCK bWITH INK PEN aLOCKING-SHIFT ONE
    bZERO aLOGICAL AND cWITH DOT ABOVE dDOUBLE OVERBAR eUNDERBAR dHORIZONTAL DASH dMIDDLE STEM
    dUNDERBAR bOR cOVERLAPPING LOGICAL AND cWITH DOT ABOVE dDOUBLE OVERBAR eUNDERBAR dHORIZONTAL
    DASH dMIDDLE STEM aLOLLIPOP aLONG DASH FROM LEFT MEMBER OF DOUBLE VERTICAL bDIVISION bDRUM
    bLEFT RIGHT ARROW dDOUBLE ARROW cTACK bLEFTWARDS ARROW dFROM BAR cDOUBLE ARROW eFROM BAR
    cSQUIGGLE ARROW bRIGHT TACK bRIGHTWARDS ARROW dFROM BAR cDOUBLE ARROW eFROM BAR cSQUIGGLE
    ARROW aLOTION BOTTLE aLOTUS aLOUDLY CRYING FACE aLOVE HOTEL bLETTER aLOW ASTERISK bBATTERY
    bBRIGHTNESS SYMBOL bDOUBLE PRIME QUOTATION MARK bKAVYKA cWITH DOT bLINE aLOWER BLADE
    SCISSORS bFIVE EIGHTHS BLOCK bHALF BLOCK cCIRCLE cINVERSE WHITE CIRCLE cMEDIUM SHADE bLEFT
    BALLPOINT PEN cBLOCK DIAGONAL LOWER MIDDLE LEFT TO LOWER CENTRE jRIGHT eUPPER CENTRE TO
    LOWER MIDDLE RIGHT iRIGHT hUPPER MIDDLE RIGHT fLEFT TO LOWER CENTRE iMIDDLE RIGHT hUPPER
    MIDDLE RIGHT fMIDDLE LEFT TO LOWER CENTRE jMIDDLE RIGHT jRIGHT cCRAYON cFOUNTAIN PEN
    cPAINTBRUSH cPENCIL cQUADRANT CIRCULAR ARC cSEMICIRCULAR ANTICLOCKWISE ARROW cTRIANGLE
    cTRIANGULAR MEDIUM SHADE bONE EIGHTH BLOCK cQUARTER BLOCK bRIGHT BLOCK DIAGONAL LOWER CENTRE
    TO LOWER MIDDLE RIGHT hUPPER MIDDLE RIGHT iRIGHT fLEFT TO LOWER MIDDLE RIGHT hUPPER CENTRE
    iMIDDLE RIGHT fMIDDLE LEFT TO UPPER CENTRE jMIDDLE RIGHT jRIGHT eUPPER MIDDLE LEFT TO UPPER
    CENTRE jRIGHT cCORNER WITH DOT cDROP-SHADOWED WHITE SQUARE cPENCIL cQUADRANT CIRCULAR ARC
    cSEMICIRCULAR CLOCKWISE ARROW cSHADOWED WHITE CIRCLE eSQUARE cTRIANGLE cTRIANGULAR MEDIUM
    SHADE bSEVEN EIGHTHS BLOCK bTHREE EIGHTHS BLOCK cQUARTERS BLOCK bTRIANGULAR ONE QUARTER
    BLOCK aLOZENGE bDIVIDED BY HORIZONTAL RULE aLRE aLRI aLRM aLRO aLUGGAGE aLUNGS aLYCIAN
    LETTER A cAN cB cBH cD cE cEN cG cH cI cJ cK cKK cL cM cMM cN cNN cP cQ cR cS cT cTH cTT cU
    cW cX cZ aLYDIAN LETTER A cAN cB cC cD cE cEN cF cG cI cK cL cLY cM cN cNN cO cQ cR cS cSS
    cT cTT cU cV cY bTRIANGULAR MARK aLYING FACE"

end SecurityRules.CharacterName
